import OpcodeForge.Text.Quoted

/-!
# Hexadecimal Keys

An opcode is written with two hexadecimal digits. The width is a least one: a
number above one byte takes more digits, and the sign of a negative number counts
towards the width.

## Main definitions

* `Number.hexKey`: A number in lower case digits, at least two characters wide.
* `Number.upperHexKey`: The same in upper case digits.
-/

namespace OpcodeForge.Number

/-- The characters of a number in hexadecimal digits, at least two of them. -/
def hexKeyChars : Int → List Char
  | .ofNat n => Text.hexDigits 2 n
  | .negSucc n => '-' :: Text.hexDigits 1 (n + 1)

/-- A number in lower case hexadecimal digits, at least two characters wide. -/
def hexKey (i : Int) : String :=
  String.ofList (hexKeyChars i)

/-- A number in upper case hexadecimal digits, at least two characters wide. -/
def upperHexKey (i : Int) : String :=
  String.ofList ((hexKeyChars i).map Char.toUpper)

end OpcodeForge.Number
