import OpcodeForge.Opcode.Row
import OpcodeForge.Text.Casing

/-!
# Instructions

What a document specifies: the code of an instruction, the rows that declare its
opcodes, and code that is added to each of them. An instruction without a table
has a body but declares nothing, which is not the same as having an empty table.

## Main definitions

* `Specification.Instruction`: The contents of a document.
* `Specification.Instruction.macroName`: The name under which its body is defined.
-/

namespace OpcodeForge.Specification

/-- What a document specifies. -/
structure Instruction where
  identifier : String
  implementation : String
  /-- The rows of its table, if it has one. -/
  rows : Option (List Opcode.Row)
  additionalCodes : String
  deriving DecidableEq, Repr

/-- The name under which the body of an instruction is defined. -/
def Instruction.macroName (i : Instruction) : String :=
  Text.lower i.identifier

end OpcodeForge.Specification
