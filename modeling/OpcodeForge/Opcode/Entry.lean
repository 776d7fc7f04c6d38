import OpcodeForge.Opcode.Reference

/-!
# Dispatch Entries

What the processor does with one opcode, and who says so. An entry that no
specification declares comes from the reference, and its source is the name of the
reference.

## Main definitions

* `Opcode.Entry`: What is done with an opcode.
* `Opcode.Entry.isDefault`: Whether it comes from the reference.
* `Opcode.Entry.key`: The opcode as it is written.
-/

namespace OpcodeForge.Opcode

/-- The source of the entries that no specification declares. -/
def defaultSource : String := "default reference"

/-- What is done with an opcode. -/
structure Entry where
  opcode : Int
  /-- The code of the addressing mode. -/
  mode : String
  instruction : String
  cycles : Cycles
  pageCross : Bool
  additionalCodes : String
  source : String
  deriving DecidableEq, Repr

/-- Whether an entry comes from the reference. -/
def Entry.isDefault (e : Entry) : Bool :=
  e.source == defaultSource

/-- The opcode as it is written. -/
def Entry.key (e : Entry) : String :=
  Number.hexKey e.opcode

/-- The entry of a byte by its row in the reference. -/
def Entry.ofReference (opcode : Nat) (r : ReferenceRow) : Entry where
  opcode := opcode
  mode := r.mode
  instruction := r.name
  cycles := r.cycles
  pageCross := false
  additionalCodes := ""
  source := defaultSource

end OpcodeForge.Opcode
