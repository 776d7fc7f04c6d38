import OpcodeForge.Number.Binary64
import OpcodeForge.Value.Date

/-!
# Configuration Values

What a configuration or reference file may hold, before it is checked: numbers,
texts, dates and bytes, and lists and mappings of them. Mappings keep the order
of their entries.

A value in a file may contain itself. Where a collection comes back inside itself,
the value holds a mark, so it is always a finite tree.

## Main definitions

* `Value`: A value of a configuration file.
* `Value.sameKey`: Whether two values are the same key of a mapping.
* `Value.isTruthy`: Whether a value counts as given.
* `Value.get?`: The entry of a mapping under a name.
-/

namespace OpcodeForge

/-- A value of a configuration file. -/
inductive Value
  | null
  | bool (b : Bool)
  | int (i : Int)
  | float (x : Number.Binary64)
  | text (s : String)
  | date (d : Date)
  | moment (m : Moment)
  | bytes (bs : List UInt8)
  | list (items : List Value)
  /-- A list of pairs. -/
  | pairs (entries : List (Value × Value))
  | map (entries : List (Value × Value))
  | set (items : List Value)
  /-- A list or a mapping inside itself. It starts `up` collections further out than the one
      that holds the mark. -/
  | again (isMap : Bool) (up : Nat)

namespace Value

/-- The integer that a value is as a key. Truth values count as one and zero. -/
def integral? : Value → Option Int
  | .bool b => some (if b then 1 else 0)
  | .int i => some i
  | .float x => x.toInt?
  | _ => none

/-- Whether two values are the same key of a mapping. Numbers are compared by
    their value, whatever their kind. -/
def sameKey (a b : Value) : Bool :=
  match a.integral?, b.integral? with
  | some i, some j => i == j
  | none, none =>
    match a, b with
    | .null, .null => true
    -- What is no number is not even the same as itself.
    | .float x, .float y => x ≠ .nan && x == y
    | .text s, .text t => s == t
    | .date d, .date e => d == e
    | .moment m, .moment n => m.sameInstant n
    | .bytes s, .bytes t => s == t
    | _, _ => false
  | _, _ => false

/-- Whether a value can be a key of a mapping. -/
def isKey : Value → Bool
  | .list _ => false
  | .pairs _ => false
  | .map _ => false
  | .set _ => false
  | .again _ _ => false
  | _ => true

/-- Whether a value counts as given: neither nothing, nor zero, nor empty. -/
def isTruthy : Value → Bool
  | .null => false
  | .bool b => b
  | .int i => i ≠ 0
  | .float x => !x.isZero
  | .text s => !s.isEmpty
  | .date _ => true
  | .moment _ => true
  | .bytes bs => !bs.isEmpty
  | .list items => !items.isEmpty
  | .pairs entries => !entries.isEmpty
  | .map entries => !entries.isEmpty
  | .set items => !items.isEmpty
  | .again _ _ => true

/-- The entries of a mapping. -/
def entries? : Value → Option (List (Value × Value))
  | .map entries => some entries
  | _ => none

/-- The entry of a mapping under a name. -/
def lookup (entries : List (Value × Value)) (name : String) : Option Value :=
  (entries.find? fun e => e.1.sameKey (.text name)).map (·.2)

end Value

end OpcodeForge
