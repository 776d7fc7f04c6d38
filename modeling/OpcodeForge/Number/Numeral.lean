import OpcodeForge.Text.Blank
import OpcodeForge.Text.Digit

/-!
# Integer Numerals

An integer in text form: blanks around it, one sign, the mark of its base, and
digits of any script with single underscores between them. Letters stand for the
digits above nine and are ASCII letters in either case.

The blanks of a numeral are not quite the blanks of text: below the space only
the tab-to-return block counts.

Decimal numerals of more than 4300 digits are refused, leading zeros counted and
underscores not. So is the other direction: an integer with more decimal digits
than that has no decimal text. Bases that are powers of two have no limit.

## Main definitions

* `Number.maxDigits`: The limit on decimal digits.
* `Number.decimal`: The decimal text of an integer.
* `Number.isWritable`: Whether an integer has a decimal text.
* `Number.integer?`: The integer that a text denotes in a base.
-/

namespace OpcodeForge.Number

/-- The greatest number of decimal digits in a numeral. -/
def maxDigits : Nat := 4300

/-- The decimal digits of an integer, with a dash before those of a negative
    one. -/
def decimalChars : Int → List Char
  | .ofNat n => Nat.toDigits 10 n
  | .negSucc n => '-' :: Nat.toDigits 10 (n + 1)

/-- The decimal text of an integer. -/
def decimal (i : Int) : String :=
  String.ofList (decimalChars i)

/-- The decimal text of a natural number. -/
def decimalNat (n : Nat) : String :=
  String.ofList (Nat.toDigits 10 n)

/-- Whether an integer has a decimal text: whether it has at most `maxDigits`
    digits. -/
def isWritable (i : Int) : Bool :=
  i.natAbs < Nat.pow 10 maxDigits

/-- The blanks that may stand around a numeral. -/
def isNumeralBlank (c : Char) : Bool :=
  Text.isBlank c && !(28 ≤ c.toNat && c.toNat ≤ 31)

/-- The value of a digit or an ASCII letter. -/
def letterValue? (c : Char) : Option Nat :=
  if 'a' ≤ c && c ≤ 'z' then some (c.toNat - 87)
  else if 'A' ≤ c && c ≤ 'Z' then some (c.toNat - 55)
  else Text.digitValue? c

/-- The value of a digit in a base. -/
def digitIn? (base : Nat) (c : Char) : Option Nat :=
  (letterValue? c).filter (· < base)

/-- The digits of a numeral: at least one, with single underscores between
    them. -/
def digits? (base : Nat) : List Char → Option (List Nat)
  | [] => none
  | [c] => (digitIn? base c).map ([·])
  | c :: '_' :: rest => do
    let d ← digitIn? base c
    return d :: (← digits? base rest)
  | c :: rest => do
    let d ← digitIn? base c
    return d :: (← digits? base rest)

/-- The number that digits denote, after the digits worth `n`. -/
def foldDigits (base n : Nat) (ds : List Nat) : Nat :=
  ds.foldl (fun n d => n * base + d) n

/-- The letter that marks a base behind a zero. -/
def baseMark? (base : Nat) : Option Char :=
  if base == 16 then some 'x'
  else if base == 8 then some 'o'
  else if base == 2 then some 'b'
  else none

/-- The text of a numeral without the mark of its base and an underscore behind
    it. -/
def dropBaseMark (base : Nat) (cs : List Char) : List Char :=
  match cs with
  | '0' :: m :: rest =>
    if baseMark? base == some m.toLower then
      match rest with
      | '_' :: rest => rest
      | rest => rest
    else cs
  | _ => cs

/-- The natural number that a text denotes in a base. -/
def natural? (base : Nat) (cs : List Char) : Option Nat :=
  match digits? base (dropBaseMark base cs) with
  | none => none
  | some ds =>
    if base == 10 && maxDigits < ds.length then none else some (foldDigits base 0 ds)

/-- The integer that a text denotes in a base. -/
def integer? (base : Nat) (cs : List Char) : Option Int :=
  match Text.dropEndWhile isNumeralBlank (cs.dropWhile isNumeralBlank) with
  | '-' :: rest => (natural? base rest).map fun n => -(n : Int)
  | '+' :: rest => (natural? base rest).map Int.ofNat
  | cs => (natural? base cs).map Int.ofNat

end OpcodeForge.Number
