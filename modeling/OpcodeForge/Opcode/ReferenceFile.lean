import OpcodeForge.Opcode.Reference
import OpcodeForge.Settings.File

/-!
# Reference Files

A reference other than that of the processor is a file with a list of mappings, one
for each byte. Each has a name and cycles, and a mode unless it is the implied one.
Letters of modes are made small and those of names capital, whatever kind of value
they are.

Cycles are an integer, or a text that denotes one: in base sixteen if it starts with
`0x`, and else in base ten. A truth value is kept as it is.

## Main definitions

* `Opcode.Cycles.ofValue`: The cycles that a value stands for.
* `Opcode.ReferenceRow.ofValue`: The row that a value describes.
* `Opcode.loadReference`: The reference in a file.
-/

namespace OpcodeForge.Opcode

/-- The base of the integer that a text denotes. -/
def numeralBase (cs : List Char) : Nat :=
  if cs.take 2 = ['0', 'x'] then 16 else 10

/-- The integer that a text denotes. -/
def integerOf? (s : String) : Option Int :=
  Number.integer? (numeralBase s.toList) s.toList

/-- The report that a value stands for no integer. -/
def notAnInteger (v : Value) : Halt :=
  if v.isWritable then .failure (.config (.badInteger v)) else .defect .numberTooLong

/-- The cycles that a value stands for. -/
def Cycles.ofValue (v : Value) : Except Halt Cycles :=
  match v with
  | .bool b => .ok (.flag b)
  | .int i => .ok (.count i)
  | .text s =>
    match integerOf? s with
    | some i => .ok (.count i)
    | none => .error (notAnInteger v)
  | _ => .error (notAnInteger v)

/-- The code of the mode of a row that does not name one. -/
def impliedMode : String := "imp"

/-- The row that the given values describe. -/
def ReferenceRow.ofParts (mode name cycles : Value) : Except Halt ReferenceRow := do
  if mode.isWritable && name.isWritable then
    let count ← Cycles.ofValue cycles
    return ⟨Text.lower mode.plain, Text.upper name.plain, count⟩
  else .error (.defect .numberTooLong)

/-- The row that a value describes for a byte. -/
def ReferenceRow.ofValue (index : Nat) (v : Value) : Except Halt ReferenceRow :=
  match v.entries? with
  | none => .error (.failure (.config (.referenceEntry index)))
  | some entries =>
    match Value.lookup entries "name", Value.lookup entries "cycles" with
    | some name, some cycles =>
      -- A mode that is given as nothing is no missing one.
      let mode := (Value.lookup entries "mode").getD (.text impliedMode)
      ReferenceRow.ofParts mode name cycles
    | _, _ => .error (.failure (.config (.referenceEntry index)))

/-- The rows that values describe, for the bytes from `index` on. -/
def rowsFrom (index : Nat) : List Value → Except Halt (List ReferenceRow)
  | [] => .ok []
  | v :: vs => do
    let row ← ReferenceRow.ofValue index v
    let rows ← rowsFrom (index + 1) vs
    return row :: rows

/-- The values of a list, or of a list of pairs, none of which describes a row. -/
def itemsOf? : Value → Option (List Value)
  | .list items => some items
  | .pairs entries => some (entries.map fun e => .list [e.1, e.2])
  | _ => none

/-- The reference that a value describes. The path is that of its file. -/
def referenceOf (path v : Value) : Except Halt (List ReferenceRow) :=
  match itemsOf? v with
  | none => .error (.failure (.config (.referenceLength path.plain)))
  | some items =>
    if items.length = opcodeSpace then rowsFrom 0 items
    -- The length is checked before any row is looked at.
    else .error (.failure (.config (.referenceLength path.plain)))

/-- The reference in a file. -/
def loadReference (d : Disk) (path : Value) : Except Halt (List ReferenceRow) := do
  referenceOf path (← Settings.readValue .referenceUnreadable d path)

end OpcodeForge.Opcode
