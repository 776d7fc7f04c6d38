import OpcodeForge.Markdown.Line
import OpcodeForge.Text.Digit

/-!
# Block Markers

The characters at the start of a line that open a block: number signs, a fence,
a list marker, the sign of a quote, and the line of three or more equal signs
that is a rule. Each is read from the body of a line alone, so none of these
functions knows about containers.

A list marker and a quote sign change how their line is seen from inside. The
line of a list item keeps its marker in the lead. The line of a quote loses
everything up to the sign and one blank after it; when that blank is a tab that
is wider than one column, the tab stays and its first column is given up.

## Main definitions

* `Markdown.headingOf?`: The depth and the text of a heading.
* `Markdown.Fence`: A line that opens or closes fenced code.
* `Markdown.isRule`: Whether a line is a thematic break.
* `Markdown.ListMarker`: The marker of a list item.
* `Markdown.Line.unquote`: A line as seen from inside a quote.
-/

namespace OpcodeForge.Markdown

/-- The end of a heading, cut back: blanks, and before them a run of number
    signs that a blank separates from the text. -/
def dropHeadingEnd (cs : List Char) : List Char :=
  -- The text is backwards from here on.
  let cs := cs.reverse.dropWhile Text.isSpaceTab
  match cs.dropWhile (· == '#') with
  | [] => cs.reverse
  -- Without a blank before it the run belongs to the text.
  | c :: rest => if Text.isSpaceTab c then (c :: rest).reverse else cs.reverse

/-- The depth and the text of a heading: up to six number signs, and then a
    blank or nothing. -/
def headingOf? (body : List Char) : Option (Nat × List Char) :=
  let depth := (body.takeWhile (· == '#')).length
  let rest := body.dropWhile (· == '#')
  if depth == 0 || 6 < depth then none
  else match rest with
    | [] => some (depth, [])
    | c :: _ => if Text.isSpaceTab c then some (depth, dropHeadingEnd rest) else none

/-- The depth of the heading that a line of equals signs or dashes makes of the
    paragraph above it. -/
def underlineOf? (body : List Char) : Option Nat :=
  match body with
  | [] => none
  | c :: _ =>
    if (c == '=' || c == '-')
        && (body.dropWhile (· == c)).all Text.isSpaceTab then
      some (if c == '=' then 1 else 2)
    else none

/-- The character and the length of a fence. -/
structure Fence where
  mark : Char
  length : Nat
  deriving DecidableEq, Repr

/-- The character of a fence that is not a tilde. -/
def graveAccent : Char := Char.ofNat 0x60

/-- The fence that a line opens. What follows a fence of grave accents may not
    hold another one. -/
def Fence.ofBody? (body : List Char) : Option Fence :=
  match body with
  | [] => none
  | c :: _ =>
    let length := (body.takeWhile (· == c)).length
    let rest := body.dropWhile (· == c)
    -- Text between grave accents in one line is code inside a paragraph.
    if (c == '~' || (c == graveAccent && !rest.contains c)) && 3 ≤ length then
      some ⟨c, length⟩
    else none

/-- Whether a line closes the code: the same character, at least as often, and
    nothing but blanks after it. -/
def Fence.closedBy (fence : Fence) (body : List Char) : Bool :=
  fence.length ≤ (body.takeWhile (· == fence.mark)).length
    && (body.dropWhile (· == fence.mark)).all Text.isSpaceTab

/-- Whether a line is a rule: at least three equal stars, dashes or underscores
    with blanks between them. -/
def isRule (body : List Char) : Bool :=
  match body with
  | [] => false
  | c :: _ =>
    (c == '*' || c == '-' || c == '_')
      && body.all (fun d => d == c || Text.isSpaceTab d)
      && 3 ≤ (body.filter (· == c)).length

/-- The marker of a list item. -/
structure ListMarker where
  /-- How many characters it has. -/
  width : Nat
  /-- The bullet, or the character after the number. -/
  mark : Char
  /-- The number of an ordered item. -/
  number : Option Nat
  deriving DecidableEq, Repr

/-- Whether a marker may end before this text. -/
def endsMarker (cs : List Char) : Bool :=
  match cs with
  | [] => true
  | c :: _ => Text.isSpaceTab c

/-- The marker at the start of a line. A number has at most nine digits. -/
def ListMarker.ofBody? (body : List Char) : Option ListMarker :=
  let digits := body.takeWhile Char.isDigit
  match body.drop digits.length with
  | c :: rest =>
    if !endsMarker rest then none
    else if digits.isEmpty then
      if c == '*' || c == '-' || c == '+' then some ⟨1, c, none⟩ else none
    else if digits.length ≤ 9 && (c == '.' || c == ')') then
      some ⟨digits.length + 1, c, some (Text.asciiNumber digits)⟩
    else none
  | [] => none

/-- Whether two items belong to one list. -/
def ListMarker.continues (a b : ListMarker) : Bool :=
  a.mark == b.mark && a.number.isSome == b.number.isSome

/-- Whether an item may interrupt a paragraph: a number has to be one, and the
    item may not be empty. -/
def ListMarker.interrupts (m : ListMarker) (body : List Char) : Bool :=
  m.number.all (· == 1) && !(body.drop m.width).all Text.isSpaceTab

/-- The first line of an item as seen from inside the item, and the column at
    which the contents of the item start. More than four columns behind the
    marker belong to the contents, except for one. -/
def ListMarker.enter (m : ListMarker) (l : Line) : Line × Nat :=
  let start := l.indent + m.width
  let after := l.body.drop m.width
  let gap := after.takeWhile Text.isSpaceTab
  let body := after.dropWhile Text.isSpaceTab
  let stop := columns l.offset start gap
  -- Indented code may start an item, so wide gaps do not count as one.
  let space := if body.isEmpty || 4 < stop - start then 1 else stop - start
  ({ l with
      lead := l.lead ++ l.body.take m.width ++ gap
      body := body
      indent := stop },
    start + space)

/-- Whether a line starts with the sign of a quote. -/
def startsQuote (body : List Char) : Bool :=
  body.head? == some '>'

/-- A line as seen from inside a quote, for a line that starts with the sign of
    one. -/
def Line.unquote (l : Line) : Line :=
  let rest := l.body.tail
  let start := l.indent + 1
  -- A tab at this column is one column wide, as a space is.
  let narrowTab := (l.offset + start) % 4 == 3
  let (skipped, wideTab, spaced) :=
    match rest with
    | ' ' :: _ => (1, 0, 1)
    | '\t' :: _ => if narrowTab then (1, 0, 1) else (0, 1, 1)
    | _ => (0, 0, 0)
  let inner := rest.drop skipped
  let gap := inner.takeWhile Text.isSpaceTab
  let first := start + skipped
  { lead := gap
    body := inner.dropWhile Text.isSpaceTab
    indent := columns (l.offset + wideTab) first gap - first
    offset := start + spaced
    lazy := false }

end OpcodeForge.Markdown
