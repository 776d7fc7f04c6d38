import OpcodeForge.Number.Numeral

/-!
# Places in a Configuration Text

A configuration text is read from left to right, and its structure depends on
columns. A `Cursor` is a place in it: the characters that are left, with the line,
the column and the index of the first of them. A byte order mark takes no column.

Besides the line feed, the next-line character and the two Unicode separators end
a line. The first two of them count as a line feed; the separators stay what they
are. Carriage returns have been turned into line feeds before.

## Main definitions

* `Yaml.Fault`: Why a text has no value.
* `Yaml.Cursor`: A place in a text.
* `Yaml.Cursor.advance`: The place some characters further.
-/

namespace OpcodeForge.Yaml

/-- Why a text has no value. -/
inductive Fault
  /-- The text is not well formed, or a tag does not fit its value. -/
  | malformed
  /-- A number under the tag for numbers is none. -/
  | badNumber
  /-- A number is out of the range of floating point. -/
  | hugeNumber
  /-- Nothing stands where a number should. -/
  | emptyNumber
  /-- The name of a truth value is unknown. -/
  | unknownTruth
  /-- A date has the form of one but is in no calendar. -/
  | badDate
  /-- A value under the tag for dates does not have the form of one. -/
  | noDate
  /-- A mapping stands for a date. -/
  | mappedDate
  /-- An escape denotes no character. -/
  | badCharacter
  /-- An escape denotes a number that is no code point of any kind. -/
  | hugeCharacter
  deriving DecidableEq, Repr

/-- A place in a text. -/
structure Cursor where
  rest : List Char
  index : Nat
  line : Nat
  column : Nat
  deriving DecidableEq, Repr

/-- Whether a character ends a line. -/
def isBreak (c : Char) : Bool :=
  c == '\n' || c == '\r' || c == '\u0085' || c == '\u2028' || c == '\u2029'

/-- What a line end stands for in a value. -/
def breakText (c : Char) : Char :=
  if c == '\u2028' || c == '\u2029' then c else '\n'

/-- Whether the text or the line ends here. -/
def atBreak : List Char → Bool
  | [] => true
  | c :: _ => isBreak c

/-- Whether the text or the line ends here, or a space follows. -/
def atSpace : List Char → Bool
  | [] => true
  | c :: _ => c == ' ' || isBreak c

/-- Whether the text or the line ends here, or a space or a tab follows. -/
def atBlank : List Char → Bool
  | [] => true
  | c :: _ => Text.isSpaceTab c || isBreak c

/-- Whether three dashes or three points stand here by themselves. -/
def atDocumentMark : List Char → Bool
  | '-' :: '-' :: '-' :: rest => atBlank rest
  | '.' :: '.' :: '.' :: rest => atBlank rest
  | _ => false

namespace Cursor

/-- The start of a text. -/
def start (cs : List Char) : Cursor := ⟨cs, 0, 0, 0⟩

/-- The place after the next character. -/
def next (c : Cursor) : Cursor :=
  match c.rest with
  | [] => c
  | x :: rest =>
    if isBreak x then ⟨rest, c.index + 1, c.line + 1, 0⟩
    -- The mark takes no column but counts as a character.
    else if x == '\uFEFF' then ⟨rest, c.index + 1, c.line, c.column⟩
    else ⟨rest, c.index + 1, c.line, c.column + 1⟩

/-- The place some characters further. -/
def advance : Nat → Cursor → Cursor
  | 0, c => c
  | n + 1, c => advance n c.next

/-- The place after all characters that satisfy `p`. -/
def skipWhile (p : Char → Bool) (c : Cursor) : Cursor :=
  c.advance (c.rest.takeWhile p).length

/-- The place at the end of the line. -/
def skipLine (c : Cursor) : Cursor :=
  c.skipWhile fun x => !isBreak x

/-- The place after a comment, if one starts here. -/
def skipComment (c : Cursor) : Cursor :=
  if c.rest.head? == some '#' then c.skipLine else c

/-- The place after blanks, a comment and the end of the line, which must follow. -/
def finishLine (c : Cursor) : Except Fault Cursor :=
  let c := (c.skipWhile (· == ' ')).skipComment
  if atBreak c.rest then .ok c.next else .error .malformed

end Cursor

end OpcodeForge.Yaml
