/-!
# Decimal Digits

A digit need not be an ASCII digit: every script that writes numbers by position
has ten characters of its own, always ten in a row and in order. One table of
the sixty-six zeros therefore says everything, and a character is a digit when
one of the zeros lies at most nine below it. Superscripts, fractions and Roman
numerals have a value but no position, and are not in the table.

## Main definitions

* `Text.digitZeros`: The zeros of the decimal scripts.
* `Text.digitValue?`: The value of a decimal digit.
* `Text.isDigit`: Whether a character is a decimal digit.
* `Text.hexValue?`: The value of an ASCII hexadecimal digit.
* `Text.asciiNumber`: The number that ASCII digits denote.

## Theorems

* `Text.digitValue?_lt`: A digit is worth less than ten.
-/

namespace OpcodeForge.Text

/-- The code points of the zeros of all decimal scripts, in ascending order. -/
def digitZeros : List Nat := [
  0x30, 0x660, 0x6f0, 0x7c0, 0x966, 0x9e6, 0xa66, 0xae6, 0xb66, 0xbe6, 0xc66, 0xce6,
  0xd66, 0xde6, 0xe50, 0xed0, 0xf20, 0x1040, 0x1090, 0x17e0, 0x1810, 0x1946, 0x19d0,
  0x1a80, 0x1a90, 0x1b50, 0x1bb0, 0x1c40, 0x1c50, 0xa620, 0xa8d0, 0xa900, 0xa9d0,
  0xa9f0, 0xaa50, 0xabf0, 0xff10, 0x104a0, 0x10d30, 0x11066, 0x110f0, 0x11136, 0x111d0,
  0x112f0, 0x11450, 0x114d0, 0x11650, 0x116c0, 0x11730, 0x118e0, 0x11950, 0x11c50,
  0x11d50, 0x11da0, 0x16a60, 0x16ac0, 0x16b50, 0x1d7ce, 0x1d7d8, 0x1d7e2, 0x1d7ec,
  0x1d7f6, 0x1e140, 0x1e2f0, 0x1e950, 0x1fbf0]

/-- The value of a decimal digit of any script, and nothing for any other
    character. -/
def digitValue? (c : Char) : Option Nat :=
  (digitZeros.find? fun z => z ≤ c.toNat && c.toNat ≤ z + 9).map (c.toNat - ·)

/-- The value of an ASCII hexadecimal digit. -/
def hexValue? (c : Char) : Option Nat :=
  if c.isDigit then some (c.toNat - 48)
  else if 'a' ≤ c && c ≤ 'f' then some (c.toNat - 87)
  else if 'A' ≤ c && c ≤ 'F' then some (c.toNat - 55)
  else none

/-- The number that ASCII digits denote, or zero if there are none. -/
def asciiNumber (ds : List Char) : Nat :=
  ds.foldl (fun n d => n * 10 + (d.toNat - 48)) 0

/-- Whether a character is a decimal digit of some script. -/
def isDigit (c : Char) : Bool :=
  (digitValue? c).isSome

theorem digitValue?_lt (c : Char) (d : Nat) (h : digitValue? c = some d) :
    d < 10 := by
  obtain ⟨z, hz, rfl⟩ := Option.map_eq_some_iff.1 h
  have := List.find?_some hz
  simp only [Bool.and_eq_true, decide_eq_true_eq] at this
  omega

end OpcodeForge.Text
