import OpcodeForge.Text.Printable

/-!
# Quoted Text

Messages that name a value show a text in quotes, so that its ends and its
invisible characters can be seen. Single quotes stand around the text, unless
the text holds single quotes and no double ones; then double quotes save the
escapes. Only the quote in use and the backslash are escaped with a backslash.

Raw bytes are shown in the same way behind a `b`, with everything outside
printable ASCII as `\x` and two digits.

## Main definitions

* `Text.hexDigits`: The lower case hexadecimal digits of a number, padded.
* `Text.quoted`: A text in quotes.
* `Text.quotedBytes`: Bytes in quotes.
-/

namespace OpcodeForge.Text

/-- The hexadecimal digits of `n`, at least `width` of them. -/
def hexDigits (width n : Nat) : List Char :=
  let ds := Nat.toDigits 16 n
  List.replicate (width - ds.length) '0' ++ ds

/-- The quote that a text with these characters takes. -/
def quoteFor (single double : Bool) : Char :=
  if single && !double then '"' else '\''

/-- A character that is not printable, as an escape of the shortest of the
    three forms. -/
def escapeHidden (c : Char) : List Char :=
  let n := c.toNat
  if n < 0x100 then '\\' :: 'x' :: hexDigits 2 n
  else if n < 0x10000 then '\\' :: 'u' :: hexDigits 4 n
  else '\\' :: 'U' :: hexDigits 8 n

/-- A character inside a text quoted with `quote`. -/
def quotedChar (quote c : Char) : List Char :=
  if c == quote || c == '\\' then ['\\', c]
  else if c == '\t' then ['\\', 't']
  else if c == '\n' then ['\\', 'n']
  else if c == '\r' then ['\\', 'r']
  else if isPrintable c then [c]
  else escapeHidden c

/-- A text in quotes, with every character that would be misread or not be seen
    written as an escape. -/
def quoted (s : String) : String :=
  let cs := s.toList
  -- The choice depends on the whole text, so it is made before any character is
  -- written.
  let quote := quoteFor (cs.contains '\'') (cs.contains '"')
  String.ofList (quote :: cs.flatMap (quotedChar quote) ++ [quote])

/-- A byte inside bytes quoted with `quote`. -/
def quotedByte (quote : Char) (b : UInt8) : List Char :=
  let c := Char.ofNat b.toNat
  if c == quote || c == '\\' then ['\\', c]
  else if c == '\t' then ['\\', 't']
  else if c == '\n' then ['\\', 'n']
  else if c == '\r' then ['\\', 'r']
  else if 0x20 ≤ b.toNat && b.toNat < 0x7F then [c]
  else '\\' :: 'x' :: hexDigits 2 b.toNat

/-- Bytes in quotes behind a `b`. -/
def quotedBytes (bs : List UInt8) : String :=
  let quote := quoteFor (bs.contains 39) (bs.contains 34)
  String.ofList ('b' :: quote :: bs.flatMap (quotedByte quote) ++ [quote])

end OpcodeForge.Text
