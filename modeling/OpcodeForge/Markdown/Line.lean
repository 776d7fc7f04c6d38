import OpcodeForge.Text.Blank
import OpcodeForge.Text.Encoding
import OpcodeForge.Text.Pieces

/-!
# Document Lines

Block structure is decided line by line, and almost every decision asks the
same two questions: how far is the line indented, and what does it start with.
A `Line` answers both. Its lead is the part before the text, its body the rest,
and its indentation the column at which the body starts.

Containers do not copy lines, they narrow them. Inside a quote the lead starts
behind the `>`; in the first line of a list item the item's own marker belongs
to the lead, so that the columns it takes are cut like blanks. Tabs reach to
the next multiple of four columns *of the document*, not of the container, and
the offset says how many columns lie to the left of the lead.

A paragraph inside a quote may go on in a line without the `>`. Such a line is
lazy: it can continue that paragraph and nothing else, and it counts as
indented less than any container.

The spaces around a text do not belong to it. Separators of lines and of records
are no spaces in a document, although they are blank, and stay where they are.

## Main definitions

* `Markdown.trim`: A text without the spaces around it.
* `Markdown.Line`: A line as a container sees it.
* `Markdown.linesOf`: The lines of a document.
* `Markdown.Line.dedent`: A line without its first columns.
* `Markdown.Frame`: The columns of the container that is being read.
-/

namespace OpcodeForge.Markdown

/-- The spaces of all kinds that are cut off around a text. -/
def isSpace (c : Char) : Bool :=
  let n := c.toNat
  -- Everything that Unicode counts as a space separator, and the five characters from
  -- the tab to the carriage return.
  (9 ≤ n && n ≤ 13) || n == 32 || n == 0xA0 || n == 0x1680
    || (0x2000 ≤ n && n ≤ 0x200A) || n == 0x202F || n == 0x205F || n == 0x3000

/-- A text without the spaces around it. -/
def trim (cs : List Char) : List Char :=
  Text.dropEndWhile isSpace (cs.dropWhile isSpace)

/-- The column after a character at a column. A tab goes to the next multiple of
    four, counted `offset` columns further to the left. -/
def column (offset col : Nat) (c : Char) : Nat :=
  if c == '\t' then col + (4 - (col + offset) % 4) else col + 1

/-- The column after several characters. -/
def columns (offset col : Nat) (cs : List Char) : Nat :=
  cs.foldl (column offset) col

/-- A line as the container that is being read sees it. -/
structure Line where
  /-- What stands before the text: blanks, and in the first line of a list item
      the marker. -/
  lead : List Char
  /-- The text, which does not start with a space or a tab. -/
  body : List Char
  /-- The column at which the text starts. -/
  indent : Nat
  /-- The columns to the left of the lead. -/
  offset : Nat
  /-- Whether the line only continues a paragraph inside a quote. -/
  lazy : Bool
  deriving DecidableEq, Repr

/-- The line that consists of the given characters, outside any container. -/
def Line.ofChars (cs : List Char) : Line where
  lead := cs.takeWhile Text.isSpaceTab
  body := cs.dropWhile Text.isSpaceTab
  indent := columns 0 0 (cs.takeWhile Text.isSpaceTab)
  offset := 0
  lazy := false

/-- Whether a line has no text. -/
def Line.isEmpty (l : Line) : Bool :=
  l.body.isEmpty

/-- The text with its line ends written as line feeds, and a replacement
    character for each character of value zero. -/
def normalize (cs : List Char) : List Char :=
  (Text.unixLines cs).map fun c => if c == '\x00' then '\uFFFD' else c

/-- Drops the last piece when nothing but spaces and tabs follow the last line
    end: there is no line then. -/
def dropBlankEnd (pieces : List (List Char)) : List (List Char) :=
  match pieces.getLast? with
  | some piece => if piece.all Text.isSpaceTab then pieces.dropLast else pieces
  | none => pieces

/-- The lines of a document. -/
def linesOf (cs : List Char) : List Line :=
  (dropBlankEnd (Text.pieces '\n' (normalize cs))).map Line.ofChars

/-- Walks through a lead until `limit` columns are passed. The answer says by
    how many columns the last tab went too far, and what is left of the lead. -/
def dropColumns (offset limit : Nat) : Nat → List Char → Nat × List Char
  | col, [] => (col - limit, [])
  | col, c :: rest =>
    if col < limit then dropColumns offset limit (column offset col c) rest
    else (col - limit, c :: rest)

/-- The line without its first columns. A tab that reaches beyond them leaves
    spaces behind. -/
def Line.dedent (limit : Nat) (l : Line) : List Char :=
  let (excess, lead) := dropColumns l.offset limit 0 l.lead
  -- The part of a tab that lies inside the contents is made up with spaces.
  List.replicate excess ' ' ++ lead ++ l.body

/-- Several lines without their first columns, each with a line feed after
    it. -/
def dedentAll (limit : Nat) (ls : List Line) : List Char :=
  ls.flatMap fun l => l.dedent limit ++ ['\n']

/-- The container that is being read: the column at which its contents start,
    and the column of the innermost list around it, if there is one. -/
structure Frame where
  indent : Nat
  listIndent : Option Nat
  deriving DecidableEq, Repr

/-- The document itself. -/
def Frame.document : Frame := ⟨0, none⟩

/-- Whether a line starts to the left of the container's contents. -/
def Frame.excludes (f : Frame) (l : Line) : Bool :=
  l.lazy || l.indent < f.indent

/-- Whether a line is indented so far that it is code. -/
def Frame.isCode (f : Frame) (l : Line) : Bool :=
  !l.lazy && f.indent + 4 ≤ l.indent

end OpcodeForge.Markdown
