import OpcodeForge.Addressing
import OpcodeForge.Opcode.Table

/-!
# The Dispatch

The second output selects by opcode what is done in a step: an arm for each entry
of the table sets the cycles, resolves the operand by the addressing mode, runs the
body of the instruction, and then the additional code if there is any. Whether a
page is crossed is found out when the code runs, so the arm does not say it.

Arms are sorted by their keys as texts. All keys have two digits, which is checked,
so this is the order of the opcodes.

## Main definitions

* `Rendering.arm`: The arm of an entry.
* `Rendering.dispatch`: The whole output.
-/

namespace OpcodeForge.Rendering

open Opcode (Entry Table)
open Addressing (Registry)

/-- The number of characters of a key. -/
def keyWidth : Nat := 2

/-- What stands before the arms. -/
def dispatchHead : String :=
  "\nuse crate::cpu::*;\nuse crate::Memory;\n\nimpl CPU \x7b\n"
    ++ "    pub fn clock(&mut self, memory: &mut dyn Memory) \x7b\n"
    ++ "        self.init_opcode(memory);\n\n        match self.current_opcode \x7b\n"
    ++ "            "

/-- What stands after the arms. -/
def dispatchTail : String :=
  "\n            _ => \x7b\n              self.steps = 1;\n            \x7d\n"
    ++ "        \x7d\n\n        self.steps -= 1;\n        self.cycles += 1;\n"
    ++ "    \x7d\n\x7d\n"

/-- The lines of an arm that calls the mode with the given code. -/
def armLines (mode : String) (e : Entry) : List String :=
  ["0x" ++ e.key ++ " => \x7b",
    "        set_instruction!(self, " ++ e.cycles.text ++ ", \x7b",
    "          " ++ mode ++ "!(self, memory);",
    "          " ++ Text.lower e.instruction ++ "!(self, memory);"]
  ++ (if e.additionalCodes.isEmpty then [] else ["          " ++ e.additionalCodes])
  ++ ["        \x7d);", "      \x7d,"]

/-- The arm of an entry. -/
def arm (registry : Registry) (e : Entry) : Except Defect String :=
  -- The cycles are written before the mode, so they fail first.
  if !e.cycles.isWritable then .error .numberTooLong
  else match registry.byCode? e.mode with
    | none => .error (.clock (.unsupportedMode e.key e.mode))
    | some c => .ok ("\n".intercalate (armLines c.code e))

/-- Checks that the keys of all entries have two digits. -/
def checkKeys : List Entry → Except Defect Unit
  | [] => .ok ()
  | e :: es =>
    if e.key.length = keyWidth then checkKeys es
    else .error (.clock (.wideKey e.key))

/-- The entries in the order of their keys. -/
def byKey (es : List Entry) : List Entry :=
  es.mergeSort fun a b => decide (a.key ≤ b.key)

/-- The output that dispatches on the opcodes of a table. -/
def dispatch (registry : Registry) (t : Table) : Except Defect String := do
  -- A wide key is an error wherever it stands, and before any arm is rendered.
  checkKeys t.entries
  let arms ← (byKey t.entries).mapM (arm registry)
  return dispatchHead ++ "\n".intercalate arms ++ dispatchTail

end OpcodeForge.Rendering
