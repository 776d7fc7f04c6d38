import OpcodeForge.Addressing
import OpcodeForge.Opcode.Table
import OpcodeForge.Specification.Instruction

/-!
# Table Builder

A dispatch table is collected in 256 slots, one for each byte. First the
placeholders of the reference may be put in as defaults; then the instructions
declare their opcodes. A declaration replaces a default, and the first of two
declarations stays.

Whatever is wrong with a row is collected, and the other rows go in nevertheless.
The table is built only if nothing was collected. A row that the run cannot even
report about stops it, with the rows before it in place.

## Main definitions

* `Opcode.Builder`: The slots and what was wrong so far.
* `Opcode.Builder.seed`: Puts in the defaults.
* `Opcode.Builder.insert`: Puts in one entry.
* `Opcode.Builder.add`: Puts in what an instruction declares.
* `Opcode.Builder.build`: The table.
-/

namespace OpcodeForge.Opcode

open Addressing (Registry Capability)
open Specification (Instruction)

/-- The slots of a table, and what was wrong so far. -/
structure Builder where
  registry : Registry
  slots : Vector (Option Entry) opcodeSpace
  failures : List Failure

namespace Builder

/-- The builder with empty slots. -/
def empty (registry : Registry) : Builder :=
  ⟨registry, Vector.replicate opcodeSpace none, []⟩

/-- The slot of an opcode. Negative numbers count from the end. -/
def slotOf? (opcode : Int) : Option (Fin opcodeSpace) :=
  -- The last byte has the number minus one too.
  let i := if opcode < 0 then opcode + opcodeSpace else opcode
  if h : 0 ≤ i ∧ i < opcodeSpace then some ⟨i.toNat, by omega⟩ else none

/-- The entry in a slot. -/
def get? (b : Builder) (i : Fin opcodeSpace) : Option Entry :=
  b.slots[i]

/-- Puts an entry into a slot. -/
def set (b : Builder) (i : Fin opcodeSpace) (e : Entry) : Builder :=
  { b with slots := b.slots.set i (some e) }

/-- Collects what was wrong. -/
def report (b : Builder) (f : Failure) : Builder :=
  { b with failures := b.failures ++ [f] }

/-- Puts the default of one byte in, if its row is a placeholder. -/
def seedRow (b : Builder) (i : Fin opcodeSpace) (r : ReferenceRow) : Builder :=
  if !isPlaceholder r.name then b
  else if b.registry.isEnabledCode r.mode then b.set i (.ofReference i r)
  else b.report (.unsupportedMode defaultSource r.mode (Number.upperHexKey i))

/-- Whether the row of a byte puts a default in. -/
def seeds (registry : Registry) (r : ReferenceRow) : Bool :=
  isPlaceholder r.name && registry.isEnabledCode r.mode

/-- Puts the defaults of the bytes from `i` on in. -/
def seedFrom (b : Builder) (i : Nat) : List ReferenceRow → Builder
  | [] => b
  | r :: rows =>
    if h : i < opcodeSpace then seedFrom (b.seedRow ⟨i, h⟩ r) (i + 1) rows else b

/-- Puts the placeholders of a reference in as defaults, and answers how many there
    were. -/
def seed (b : Builder) (rows : List ReferenceRow) : Except Failure (Builder × Nat) :=
  match checkReference rows with
  | .error f => .error f
  | .ok () => .ok (b.seedFrom 0 rows, rows.countP (seeds b.registry))

/-- Puts an entry into the slot of its opcode, where no specification may have put
    one before. -/
def insert (b : Builder) (e : Entry) : Except Halt Builder :=
  match slotOf? e.opcode with
  | none => .error (.defect .slotOutOfRange)
  | some i =>
    match b.get? i with
    | none => .ok (b.set i e)
    | some old =>
      -- A default gives way, even to another one.
      if old.isDefault then .ok (b.set i e)
      else .error (.failure (.opcodeConflict e.opcode old.source e.source))

/-- A value, or the report in its place. -/
def orHalt {α : Type} : Except Failure α → Except Halt α
  | .ok a => .ok a
  | .error f => .error (.failure f)

/-- The entry that a row of an instruction declares. What is wrong is found in the
    order of the columns, except that the row must be long enough first. -/
def entryOf (registry : Registry) (i : Instruction) (r : Row) : Except Halt Entry := do
  -- A row that is too short is reported as such, whatever else is wrong with it.
  r.checkShape i.identifier
  let label ← r.label
  let mode ← orHalt (registry.resolve label i.identifier (← r.opcodeText))
  let opcode ← r.opcode i.identifier
  let cycles ← r.cycles i.identifier
  let pageCross ← r.pageCross
  return {
    opcode := opcode
    mode := mode.code
    instruction := i.identifier
    cycles := .count cycles
    pageCross := pageCross
    additionalCodes := i.additionalCodes
    source := i.identifier ++ " (" ++ label ++ ")" }

/-- Puts in what a row declares. -/
def addRow (b : Builder) (i : Instruction) (r : Row) : Except Halt Builder := do
  b.insert (← entryOf b.registry i r)

/-- Puts in what rows declare, and answers how many of them went in. A defect comes
    with what was put in before it. -/
def addRows (i : Instruction) : Builder → Nat → List Row →
    Builder × Except Defect Nat
  | b, added, [] => (b, .ok added)
  | b, added, r :: rows =>
    match b.addRow i r with
    | .ok b => addRows i b (added + 1) rows
    -- A report leaves the slots as they are and the next row its turn.
    | .error (.failure f) => addRows i (b.report f) added rows
    | .error (.defect d) => (b, .error d)

/-- Puts in what an instruction declares, and answers how many entries it has. -/
def add (b : Builder) (i : Instruction) : Builder × Except Defect Nat :=
  addRows i b 0 (i.rows.getD [])

/-- The entries in the slots, in order. -/
def entries (b : Builder) : List Entry :=
  b.slots.toList.filterMap id

/-- The table, if nothing was wrong. -/
def build (b : Builder) : Except Failure Table :=
  if b.failures.isEmpty then .ok (.ofList b.entries)
  else .error (.generation b.failures)

end Builder

end OpcodeForge.Opcode
