import OpcodeForge.Specification.Instruction

/-!
# Instruction Bodies

The first output defines one body for each instruction, in the order of the
documents, and after them an empty one for each placeholder that no document
specifies. The code of a specification is copied as it is.

## Main definitions

* `Rendering.body`: The definition of one body.
* `Rendering.bodies`: The definitions of all of them.
-/

namespace OpcodeForge.Rendering

/-- The definition of a body under a name. -/
def body (name code : String) : String :=
  "#[allow(unused_macros)]\nmacro_rules! " ++ name ++ " \x7b\n"
    ++ "  ($self:expr, $memory:expr) => \x7b\n    " ++ code ++ "\n  \x7d\n\x7d\n\n"

/-- The names of the bodies with their code, in the order of the output. -/
def namedBodies (instructions : List Specification.Instruction)
    (placeholders : List String) : List (String × String) :=
  instructions.map (fun i => (i.macroName, i.implementation))
    ++ placeholders.map (·, "")

/-- The definitions of all bodies. -/
def bodies (instructions : List Specification.Instruction)
    (placeholders : List String) : String :=
  String.join ((namedBodies instructions placeholders).map fun b => body b.1 b.2)

end OpcodeForge.Rendering
