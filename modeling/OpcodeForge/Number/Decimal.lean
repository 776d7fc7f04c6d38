import OpcodeForge.Number.Binary64
import OpcodeForge.Number.Numeral

/-!
# Decimal Numerals with a Point

The decimal text of a floating point number: blanks around it, a sign, digits with
at most one point among them, and an exponent. At least one digit stands before
the exponent. Infinity and the undefined number have names, in any case.

## Main definitions

* `Number.float?`: The number that a text denotes.
-/

namespace OpcodeForge.Number

/-- The digits at the start of a text, in any script, and the rest. -/
def leadingDigits (cs : List Char) : List Nat × List Char :=
  (cs.takeWhile Text.isDigit |>.filterMap Text.digitValue?, cs.dropWhile Text.isDigit)

/-- The exponent that a text denotes as a whole. -/
def exponent? (cs : List Char) : Option Int :=
  let value := fun cs => match leadingDigits cs with
    | ([], _) => none
    | (ds, []) => some (foldDigits 10 0 ds)
    | _ => none
  match cs with
  | '-' :: rest => (value rest).map fun n => -(n : Int)
  | '+' :: rest => (value rest).map Int.ofNat
  | cs => (value cs).map Int.ofNat

/-- The number that digits with a point and an exponent denote. -/
def unsignedFloat? (negative : Bool) (cs : List Char) : Option Binary64 :=
  let (whole, rest) := leadingDigits cs
  let (part, rest) := match rest with
    | '.' :: rest => leadingDigits rest
    | rest => ([], rest)
  let result := fun e : Int =>
    Binary64.ofDecimal negative (foldDigits 10 0 (whole ++ part)) (e - part.length)
  if whole.isEmpty && part.isEmpty then none
  else match rest with
    | [] => some (result 0)
    | c :: rest => if c == 'e' || c == 'E' then (exponent? rest).map result else none

/-- The number that a text without a sign denotes. -/
def namedFloat? (negative : Bool) (cs : List Char) : Option Binary64 :=
  let name := String.ofList (cs.map Char.toLower)
  if name == "inf" || name == "infinity" then some (.infinite negative)
  else if name == "nan" then some .nan
  else unsignedFloat? negative cs

/-- The number that a text denotes. -/
def float? (cs : List Char) : Option Binary64 :=
  match Text.dropEndWhile isNumeralBlank (cs.dropWhile isNumeralBlank) with
  | '-' :: rest => namedFloat? true rest
  | '+' :: rest => namedFloat? false rest
  | cs => namedFloat? false cs

end OpcodeForge.Number
