/-!
# Blank Characters

Cells, headings and numbers are compared after the blanks around them are cut
off, so what counts as a blank decides which cells are equal. The set is fixed
here once: the tab-to-return block, the four separators below the space, the
space itself, and the blanks that Unicode adds above ASCII. A zero width space
and a byte order mark are *not* blank, and stay in the text.

Text is a list of characters throughout the readers. `trim` is therefore two
`dropWhile`s, one of them run from the far end.

## Main definitions

* `Text.isBlank`: The twenty-nine blank characters.
* `Text.isSpaceTab`: The two of them that indent.
* `Text.dropEndWhile`: `dropWhile` from the end of a list.
* `Text.trim`: A text without the blanks around it.
-/

namespace OpcodeForge.Text

/-- Whether a character is blank: it separates words and never belongs to
    one. -/
def isBlank (c : Char) : Bool :=
  let n := c.toNat
  (9 ≤ n && n ≤ 13) || (28 ≤ n && n ≤ 32) || n == 0x85 || n == 0xA0
    || n == 0x1680 || (0x2000 ≤ n && n ≤ 0x200A) || n == 0x2028 || n == 0x2029
    || n == 0x202F || n == 0x205F || n == 0x3000

/-- The two characters that indent a line. -/
def isSpaceTab (c : Char) : Bool :=
  c == ' ' || c == '\t'

/-- The list without its longest tail of elements that satisfy `p`. -/
def dropEndWhile {α : Type} (p : α → Bool) (l : List α) : List α :=
  (l.reverse.dropWhile p).reverse

/-- The text without the blanks before it. -/
def trimStart (cs : List Char) : List Char :=
  cs.dropWhile isBlank

/-- The text without the blanks after it. -/
def trimEnd (cs : List Char) : List Char :=
  dropEndWhile isBlank cs

/-- The text without the blanks on either side of it. -/
def trim (cs : List Char) : List Char :=
  trimEnd (trimStart cs)

/-- Cutting from the end does nothing when the last element is kept. -/
theorem dropEndWhile_append_singleton {α : Type} (p : α → Bool) (l : List α)
    (a : α) (h : p a = false) : dropEndWhile p (l ++ [a]) = l ++ [a] := by
  simp [dropEndWhile, h]

end OpcodeForge.Text
