/-!
# Binary Floating Point

A configuration file may hold floating point numbers, and messages show them.
They have 53 binary digits and eleven bits of exponent, and each operation gives
the number of this form nearest to the exact result; of two equally near, the
one with the even significand.

Nothing here computes with hardware numbers. A finite number is a sign, a
natural significand and an exponent of two, so the exact result of an operation
is a quotient of natural numbers, and one function, `roundRatio`, rounds all of
them. A significand has 53 digits unless the exponent is the least one, which
makes the form of each number unique.

## Main definitions

* `Number.Binary64`: A floating point number.
* `Number.Binary64.roundRatio`: The number nearest to a quotient.
* `Number.Binary64.ofDecimal`: The number nearest to a decimal one.
* `Number.Binary64.add`, `Number.Binary64.mul`: Rounded sum and product.
-/

namespace OpcodeForge.Number

/-- A floating point number. A finite one is `significand * 2 ^ exponent`. -/
inductive Binary64
  | nan
  | infinite (negative : Bool)
  | finite (negative : Bool) (significand : Nat) (exponent : Int)
  deriving DecidableEq, Repr

/-- The natural number nearest to `n / d`, and the even one of two. -/
def roundHalfEven (n d : Nat) : Nat :=
  let q := n / d
  let r := n % d
  if d < 2 * r || (2 * r == d && q % 2 == 1) then q + 1 else q

namespace Binary64

/-- The least exponent. -/
def minExponent : Int := -1074

/-- The greatest exponent of a finite number. -/
def maxExponent : Int := 971

/-- Zero with a sign. -/
def zero (negative : Bool) : Binary64 :=
  .finite negative 0 minExponent

/-- The quotient `num / den / 2 ^ e` as a quotient of natural numbers. -/
def scale (num den : Nat) (e : Int) : Nat × Nat :=
  if 0 ≤ e then (num, den * Nat.pow 2 e.toNat) else (num * Nat.pow 2 (-e).toNat, den)

/-- The exponent at which a positive quotient has 53 binary digits before the
    point, or the least exponent if that is greater. -/
def exponentOf (num den : Nat) : Int :=
  -- The lengths in bits tell the exponent up to one.
  let e : Int := (num.log2 : Int) - den.log2 - 52
  let (n, d) := scale num den e
  max (if n / d < Nat.pow 2 52 then e - 1 else e) minExponent

/-- The number nearest to a quotient of natural numbers. -/
def roundRatio (negative : Bool) (num den : Nat) : Binary64 :=
  if num == 0 then zero negative
  else
    let e := exponentOf num den
    let (n, d) := scale num den e
    let s := roundHalfEven n d
    -- Rounding up may carry into a new digit, and what is lost then is a zero.
    let (s, e) := if s == Nat.pow 2 53 then (Nat.pow 2 52, e + 1) else (s, e)
    if maxExponent < e then .infinite negative else .finite negative s e

/-- The number nearest to `m * 10 ^ e`. Exponents that are far out of range are
    not written out. -/
def ofDecimal (negative : Bool) (m : Nat) (e : Int) : Binary64 :=
  if m == 0 then zero negative
  else
    let size := ((Nat.toDigits 10 m).length : Int) + e
    -- Texts with huge exponents must not make huge numbers on the way.
    if 310 < size then .infinite negative
    else if size < -330 then zero negative
    else if 0 ≤ e then roundRatio negative (m * Nat.pow 10 e.toNat) 1
    else roundRatio negative m (Nat.pow 10 (-e).toNat)

/-- The number nearest to a natural number. -/
def ofNat (n : Nat) : Binary64 :=
  roundRatio false n 1

/-- The number with the other sign. -/
def neg : Binary64 → Binary64
  | .nan => .nan
  | .infinite n => .infinite !n
  | .finite n s e => .finite (!n) s e

/-- The number nearest to an integral multiple of a power of two. `negativeZero`
    is the sign of a zero. -/
def roundScaled (negativeZero : Bool) (i e : Int) : Binary64 :=
  let negative := if i == 0 then negativeZero else i < 0
  if 0 ≤ e then roundRatio negative (i.natAbs * Nat.pow 2 e.toNat) 1
  else roundRatio negative i.natAbs (Nat.pow 2 (-e).toNat)

/-- A significand with its sign. -/
def signed (negative : Bool) (s : Nat) : Int :=
  if negative then -s else s

/-- The rounded sum. -/
def add : Binary64 → Binary64 → Binary64
  | .nan, _ => .nan
  | _, .nan => .nan
  | .infinite a, .infinite b => if a == b then .infinite a else .nan
  | .infinite a, _ => .infinite a
  | _, .infinite b => .infinite b
  | .finite a s e, .finite b t f =>
    -- On the smaller exponent both are integers, so the sum is exact.
    let g := min e f
    roundScaled (a && b)
      (signed a s * Nat.pow 2 (e - g).toNat + signed b t * Nat.pow 2 (f - g).toNat) g

/-- The rounded product. -/
def mul : Binary64 → Binary64 → Binary64
  | .nan, _ => .nan
  | _, .nan => .nan
  | .infinite a, .infinite b => .infinite (a != b)
  | .infinite a, .finite b s _ => if s == 0 then .nan else .infinite (a != b)
  | .finite a s _, .infinite b => if s == 0 then .nan else .infinite (a != b)
  | .finite a s e, .finite b t f =>
    roundScaled (a != b) (signed a s * signed b t) (e + f)

/-- Whether a number is zero, of either sign. -/
def isZero : Binary64 → Bool
  | .finite _ s _ => s == 0
  | _ => false

/-- The integer that a number is, if it is one. -/
def toInt? : Binary64 → Option Int
  | .finite n s e =>
    if 0 ≤ e then some (signed n s * Nat.pow 2 e.toNat)
    else if s % Nat.pow 2 (-e).toNat == 0 then some (signed n (s / Nat.pow 2 (-e).toNat))
    else none
  | _ => none

end Binary64

end OpcodeForge.Number
