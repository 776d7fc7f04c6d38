import OpcodeForge.Failure
import OpcodeForge.Text.Casing

/-!
# Opcode Reference

A reference has a row for each byte: the code of an addressing mode, the name of
an instruction, and its cycles. Bytes whose instruction does nothing, or is not
implemented, get an entry in the dispatch table without any specification; their
names are the placeholders.

A cycle count comes from a configuration value and may therefore be a truth value,
which is kept and written as one.

## Main definitions

* `Opcode.Cycles`: A cycle count.
* `Opcode.ReferenceRow`: What a reference says about one byte.
* `Opcode.isPlaceholder`: Whether a name is that of a placeholder.
* `Opcode.checkReference`: Whether a reference has a row for each byte.
-/

namespace OpcodeForge.Opcode

/-- A cycle count. -/
inductive Cycles
  | count (n : Int)
  | flag (b : Bool)
  deriving DecidableEq, Repr

/-- A cycle count as text. -/
def Cycles.text : Cycles → String
  | .count n => Number.decimal n
  | .flag b => if b then "True" else "False"

/-- Whether a cycle count has a text. -/
def Cycles.isWritable : Cycles → Bool
  | .count n => Number.isWritable n
  | .flag _ => true

/-- What a reference says about one byte. -/
structure ReferenceRow where
  /-- The code of the addressing mode. -/
  mode : String
  name : String
  cycles : Cycles
  deriving DecidableEq, Repr

/-- The names of the instructions that need no specification. -/
def placeholderNames : List String := ["NOP", "XXX"]

/-- Whether a name is that of a placeholder, in any case. -/
def isPlaceholder (name : String) : Bool :=
  placeholderNames.contains (Text.upper name)

/-- Checks that a reference has a row for each byte. -/
def checkReference (rows : List ReferenceRow) : Except Failure Unit :=
  if rows.length = opcodeSpace then .ok ()
  else .error (.config (.referenceRows rows.length))

end OpcodeForge.Opcode
