import OpcodeForge.Number.Binary64

/-!
# Shortest Decimal Text

A floating point number is written with the fewest decimal digits that read back
as the same number, and of those digits with the nearest ones, or the even ones
if two are equally near. For each count of digits from one upwards, the two
decimal numbers around the value are tried; the first count at which one of them
reads back is the answer. Seventeen digits are always enough.

The text is positional while the point lies at most sixteen digits behind the
first one and at most four zeros before it, and it always shows a point there.
Otherwise one digit stands before the point, and the exponent has a sign and at
least two digits.

## Main definitions

* `Number.shortest`: The digits of a number, and where the point is.
* `Number.Binary64.text`: A number as text.
-/

namespace OpcodeForge.Number

/-- Whether `10 ^ k ≤ num / den`. -/
def reachesPower (num den : Nat) (k : Int) : Bool :=
  if 0 ≤ k then den * Nat.pow 10 k.toNat ≤ num else den ≤ num * Nat.pow 10 (-k).toNat

/-- The number of digits before the point of a positive quotient, from an
    estimate that is too small. It is negative for zeros behind the point. -/
def pointFrom (num den : Nat) : Nat → Int → Int
  | 0, k => k
  | fuel + 1, k =>
    if reachesPower num den k then pointFrom num den fuel (k + 1) else k

/-- The number of digits before the point of a positive quotient. -/
def pointOf (num den : Nat) : Int :=
  -- One binary digit is about 0.30103 decimal ones.
  let bits : Int := (num.log2 : Int) - den.log2
  pointFrom num den 8 ((bits * 30103).fdiv 100000 - 2)

/-- The distance of `n` from `num / den`, times `den`. -/
def distance (num den n : Nat) : Nat :=
  (num - n * den) + (n * den - num)

/-- The decimal number with `count` digits nearest to the value `num / den`, among
    those on either side of it that read back as `x`. It comes with the exponent
    of ten that it is to be multiplied with. -/
def nearestDecimal? (x : Binary64) (num den : Nat) (point : Int) (count : Nat) :
    Option (Nat × Int) :=
  let e := point - count
  let (n, d) := if 0 ≤ e then (num, den * Nat.pow 10 e.toNat)
    else (num * Nat.pow 10 (-e).toNat, den)
  -- The grid of decimal numbers has one point below the value and one above it.
  let low := n / d
  let reads := fun m => Binary64.ofDecimal false m e == x
  match reads low, reads (low + 1) with
  | true, true =>
    let below := distance n d low
    let above := distance n d (low + 1)
    some (if below < above || (below == above && low % 2 == 0) then low else low + 1, e)
  | true, false => some (low, e)
  | false, true => some (low + 1, e)
  | false, false => none

/-- The decimal digits of `significand * 2 ^ exponent`, and the number of them
    before the point. -/
def shortest (significand : Nat) (exponent : Int) : List Char × Int :=
  let x := Binary64.finite false significand exponent
  let (num, den) :=
    if 0 ≤ exponent then (significand * Nat.pow 2 exponent.toNat, 1)
    else (significand, Nat.pow 2 (-exponent).toNat)
  let point := pointOf num den
  let found := (List.range 17).findSome? fun i => nearestDecimal? x num den point (i + 1)
  let (m, e) := found.getD (0, 0)
  let digits := Nat.toDigits 10 m
  -- A round upper neighbour ends in zeros, which do not count as digits.
  ((digits.reverse.dropWhile (· == '0')).reverse, digits.length + e)

/-- An exponent with its sign and at least two digits. -/
def exponentText (e : Int) : List Char :=
  let ds := Nat.toDigits 10 e.natAbs
  (if e < 0 then '-' else '+') :: (if ds.length < 2 then '0' :: ds else ds)

/-- Digits with the point after the first `point` of them. -/
def layout (digits : List Char) (point : Int) : List Char :=
  if -4 < point && point ≤ 0 then
    '0' :: '.' :: (List.replicate (-point).toNat '0' ++ digits)
  else if 0 < point && point ≤ 16 then
    let n := point.toNat
    let whole := digits.take n ++ List.replicate (n - digits.length) '0'
    whole ++ '.' :: (if n < digits.length then digits.drop n else ['0'])
  else
    let tail := digits.tail
    digits.take 1 ++ (if tail.isEmpty then [] else '.' :: tail)
      ++ 'e' :: exponentText (point - 1)

/-- A number as text. -/
def Binary64.text : Binary64 → String
  | .nan => "nan"
  | .infinite n => if n then "-inf" else "inf"
  | .finite n s e =>
    let body :=
      if s == 0 then ['0', '.', '0']
      else
        let (digits, point) := shortest s e
        layout digits point
    String.ofList (if n then '-' :: body else body)

end OpcodeForge.Number
