import OpcodeForge.Markdown.Line

/-!
# Table Cells

A row of a table is cut at its pipes. A pipe behind a backslash belongs to its
cell, and the backslash before it is dropped; a pipe at either end of the row is
a border and not a cell.

The delimiter row fixes how many columns the table has. It is read without any
escapes: each column is a run of dashes with an optional colon at either end.

## Main definitions

* `Markdown.cells`: The cells of a row.
* `Markdown.fitCells`: The cells of a row under a header of a given width.
* `Markdown.isDelimiterLine`: Whether a text has the characters of a delimiter
  row.
* `Markdown.delimiterColumns?`: The number of columns of a delimiter row.

## Theorems

* `Markdown.length_fitCells`: A row has as many cells as its header.
-/

namespace OpcodeForge.Markdown

/-- Cuts a text at its pipes. `cell` holds the cell read so far, backwards, and
    `escaped` says whether a backslash came before. -/
def splitPipes (escaped : Bool) (cell : List Char) :
    List Char → List (List Char)
  | [] => [cell.reverse]
  | c :: rest =>
    if c == '|' then
      -- The backslash before the pipe is the last character read.
      if escaped then splitPipes false (c :: cell.tail) rest
      else cell.reverse :: splitPipes false [] rest
    else splitPipes (c == '\\') (c :: cell) rest

/-- A list of cells without an empty one at its start. -/
def dropEmptyFirst : List (List Char) → List (List Char)
  | [] :: cs => cs
  | cs => cs

/-- A list of cells without an empty one at its end. -/
def dropEmptyLast (cs : List (List Char)) : List (List Char) :=
  match cs.getLast? with
  | some [] => cs.dropLast
  | _ => cs

/-- The cells of a row without the blanks around the row, borders dropped and
    blanks inside the cells kept. -/
def cells (row : List Char) : List (List Char) :=
  dropEmptyLast (dropEmptyFirst (splitPipes false [] row))

/-- The cells of a row of a table that has `count` columns: missing cells are
    empty, and those that are too many are dropped. -/
def fitCells : Nat → List (List Char) → List (List Char)
  | 0, _ => []
  | count + 1, [] => [] :: fitCells count []
  | count + 1, c :: cs => trim c :: fitCells count cs

theorem length_fitCells (count : Nat) (cs : List (List Char)) :
    (fitCells count cs).length = count := by
  induction count generalizing cs with
  | zero => rfl
  | succ n ih => cases cs <;> simp [fitCells, ih]

/-- The characters of a delimiter row. -/
def isDelimiter (c : Char) : Bool :=
  c == '|' || c == '-' || c == ':'

/-- Whether a text consists of the characters of a delimiter row. It starts with
    one of them, has at least two characters, and a dash at its start is not
    followed by a blank: this would be a list. -/
def isDelimiterLine : List Char → Bool
  | a :: b :: rest =>
    isDelimiter a && (isDelimiter b || Text.isSpaceTab b)
      && !(a == '-' && Text.isSpaceTab b)
      && rest.all fun c => isDelimiter c || Text.isSpaceTab c
  | _ => false

/-- Whether a text is a run of dashes with an optional colon at either end. -/
def isDelimiterCell (cs : List Char) : Bool :=
  let cs := if cs.head? == some ':' then cs.tail else cs
  let rest := cs.dropWhile (· == '-')
  cs.head? == some '-' && (rest == [] || rest == [':'])

/-- The number of columns of a delimiter row. The first and the last piece may be
    empty, the others may not. -/
def delimiterColumns? (row : List Char) : Option Nat :=
  let pieces := (Text.pieces '|' row).map trim
  let inner := pieces.tail.dropLast
  -- A single piece is the first and the last one, but counts once.
  let ends := [pieces.head?, if pieces.length < 2 then none else pieces.getLast?]
  let ends := (ends.filterMap id).filter (· ≠ [])
  if (inner ++ ends).all isDelimiterCell then some (inner.length + ends.length)
  else none

end OpcodeForge.Markdown
