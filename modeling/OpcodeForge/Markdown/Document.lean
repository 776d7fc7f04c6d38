import OpcodeForge.Markdown.Cells
import OpcodeForge.Markdown.Definition
import OpcodeForge.Markdown.Html
import OpcodeForge.Markdown.Marker
import OpcodeForge.Markdown.Token

/-!
# Document Structure

The block structure of a document, read line by line. In each container the
first line that is left decides what comes next: the rules are tried in a fixed
order, and each one takes some lines and leaves the rest. Whatever no rule wants
is a paragraph.

A paragraph goes on until an empty line or until a line that opens another
block, and what may interrupt it depends on where it stands. The predicates
`interrupts…` hold exactly these cases. They ask only whether a block could
start, and never read one.

Containers read their contents with the same function one level deeper. There
are twenty levels; a list takes two of them, one for itself and one for the
item. Beyond the last level nothing is read, and the container swallows all
lines that are left. So the recursion is on the number of levels that remain,
and inside a level on the number of lines.

## Main definitions

* `Markdown.table?`, `Markdown.block`: The rules for one block.
* `Markdown.quoteLines`: The lines of a quote, as seen from inside.
* `Markdown.forest`: The nodes of a container at a level.
* `Markdown.parse`: The nodes of a document.
-/

namespace OpcodeForge.Markdown

/-- The header of the table that starts here, with the number of its columns
    checked against the line below it, and the lines after those two. -/
def tableHeader? (f : Frame) : List Line → Option (List (List Char) × List Line)
  | header :: delimiter :: rest =>
    -- The line of dashes decides first, since few lines look like one.
    if f.excludes delimiter || f.isCode delimiter
        || !isDelimiterLine delimiter.body then none
    else match delimiterColumns? delimiter.body with
      | none => none
      | some count =>
        let text := trim header.body
        let names := cells text
        if text.contains '|' && !f.isCode header && count ≠ 0
            && names.length == count then
          some (fitCells count names, rest)
        else none
  | _ => none

/-- Whether a line opens fenced code. -/
def opensFence (f : Frame) (l : Line) : Bool :=
  !f.isCode l && (Fence.ofBody? l.body).isSome

/-- Whether a line opens a quote. -/
def opensQuote (f : Frame) (l : Line) : Bool :=
  !f.isCode l && startsQuote l.body

/-- Whether a line is a rule. -/
def opensRule (f : Frame) (l : Line) : Bool :=
  !f.isCode l && isRule l.body

/-- Whether a line is a heading. -/
def opensHeading (f : Frame) (l : Line) : Bool :=
  !f.isCode l && (headingOf? l.body).isSome

/-- The form of the HTML block that a line opens. -/
def htmlStart? (f : Frame) (l : Line) : Option HtmlStart :=
  if f.isCode l then none else HtmlStart.ofText? l.body

/-- The marker of the list item that a line opens. A line that is indented four
    columns more than the list around it, but less than the contents of the item
    before it, opens none. -/
def listMarker? (f : Frame) (l : Line) : Option ListMarker :=
  -- Such a line goes on the paragraph of the item before it.
  let tooDeep := match f.listIndent with
    | some n => !l.lazy && n + 4 ≤ l.indent && l.indent < f.indent
    | none => false
  if f.isCode l || tooDeep then none else ListMarker.ofBody? l.body

/-- Whether a line opens a block that ends a list. -/
def interruptsList (f : Frame) (l : Line) : Bool :=
  opensFence f l || opensQuote f l || opensRule f l

/-- Whether a line opens a block that ends a quote or a table. -/
def interruptsQuote (f : Frame) (l : Line) : Bool :=
  interruptsList f l || (listMarker? f l).isSome
    || (htmlStart? f l).any HtmlStart.interrupts || opensHeading f l

/-- Whether the lines open a block that ends a definition. -/
def interruptsDefinition (f : Frame) : List Line → Bool
  | [] => false
  | l :: ls => (tableHeader? f (l :: ls)).isSome || interruptsQuote f l

/-- Whether a line opens a list that ends a paragraph. A line that belongs to the
    container needs a marker that may interrupt. -/
def listInterrupts (f : Frame) (l : Line) : Bool :=
  (listMarker? f l).any fun m => f.excludes l || m.interrupts l.body

/-- Whether the lines open a block that ends a paragraph. -/
def interruptsParagraph (f : Frame) : List Line → Bool
  | [] => false
  | l :: ls =>
    (tableHeader? f (l :: ls)).isSome || interruptsList f l || listInterrupts f l
      || (htmlStart? f l).any HtmlStart.interrupts || opensHeading f l

/-- Whether a definition may take in the first of the lines. -/
def goesOnDefinition (f : Frame) : List Line → Bool
  | [] => false
  | l :: ls =>
    !l.isEmpty && (f.isCode l || l.lazy || !interruptsDefinition f (l :: ls))

/-- How a paragraph ends. -/
structure ParagraphEnd where
  /-- The lines that it takes after its first. -/
  lines : List Line
  /-- The depth of the heading that it turns out to be, by the line below. -/
  underline : Option Nat
  /-- What follows it, and follows the line below. -/
  rest : List Line

/-- The lines that go on a paragraph. -/
def paragraphEnd (f : Frame) : List Line → ParagraphEnd
  | [] => ⟨[], none, []⟩
  | l :: ls =>
    let more := fun _ : Unit =>
      let tail := paragraphEnd f ls
      { tail with lines := l :: tail.lines }
    if l.isEmpty then ⟨[], none, l :: ls⟩
    -- Code cannot interrupt a paragraph, so the line just goes on.
    else if f.isCode l then more ()
    else match if f.excludes l then none else underlineOf? l.body with
      | some depth => ⟨[], some depth, ls⟩
      | none =>
        -- A lazy line has been asked already whether it opens a block.
        if l.lazy || !interruptsParagraph f (l :: ls) then more ()
        else ⟨[], none, l :: ls⟩

/-- A paragraph, or the heading that a line below it makes of it, and the lines
    that follow. -/
def paragraph (f : Frame) (first : Line) (ls : List Line) : Node × List Line :=
  let tail := paragraphEnd f ls
  let text := trim (dedentAll f.indent (first :: tail.lines))
  let element := match tail.underline with
    | some depth => .heading depth
    | none => .paragraph
  (.inline element text, tail.rest)

/-- The rows of a table with `count` columns, and the lines that follow. All rows
    together may lack no more than 65536 cells; `lacking` counts those of the
    rows before. -/
def tableRows (f : Frame) (count : Nat) (lacking : Int) :
    List Line → List (List (List Char)) × List Line
  | [] => ([], [])
  | l :: ls =>
    let text := trim l.body
    let names := cells text
    -- Rows that are too long give back what others lacked.
    let lacking := lacking + count - names.length
    if f.excludes l || interruptsQuote f l || text.isEmpty || f.isCode l
        || 65536 < lacking then
      ([], l :: ls)
    else
      let (rows, rest) := tableRows f count lacking ls
      (fitCells count names :: rows, rest)

/-- The table that starts here, and the lines that follow. -/
def table? (f : Frame) (ls : List Line) : Option (Node × List Line) :=
  (tableHeader? f ls).map fun (header, rest) =>
    let (rows, rest) := tableRows f header.length 0 rest
    (.table header rows, rest)

/-- The lines that belong to indented code, together with the empty lines before
    each of them, and the lines that follow. -/
def codeLines (f : Frame) : List Line → List Line × List Line
  | [] => ([], [])
  | l :: ls =>
    if l.isEmpty then
      let (code, rest) := codeLines f ls
      -- Empty lines belong to the code only if more code follows them.
      if code.isEmpty then ([], l :: ls) else (l :: code, rest)
    else if f.isCode l then
      let (code, rest) := codeLines f ls
      (l :: code, rest)
    else ([], l :: ls)

/-- Indented code, and the lines that follow. -/
def indentedCode (f : Frame) (first : Line) (ls : List Line) : Node × List Line :=
  let (code, rest) := codeLines f ls
  (.leaf .indentedCode (dedentAll (f.indent + 4) (first :: code)), rest)

/-- The lines of fenced code, and the lines after its closing fence. -/
def fenceLines (f : Frame) (fence : Fence) : List Line → List Line × List Line
  | [] => ([], [])
  | l :: ls =>
    -- The container ends, and the fence with it, although nothing closed it.
    if !l.isEmpty && f.excludes l then ([], l :: ls)
    else if !f.isCode l && fence.closedBy l.body then ([], ls)
    else
      let (code, rest) := fenceLines f fence ls
      (l :: code, rest)

/-- Fenced code without the columns that its fence is indented, and the lines
    that follow. -/
def fencedCode (f : Frame) (fence : Fence) (first : Line) (ls : List Line) :
    Node × List Line :=
  let (code, rest) := fenceLines f fence ls
  (.leaf .fence (dedentAll first.indent code), rest)

/-- An HTML block, and the lines that follow. -/
def htmlBlock (f : Frame) (s : HtmlStart) (first : Line) (ls : List Line) :
    Node × List Line :=
  let (html, rest) := if s.endsIn first.body then ([], ls) else htmlTail f s ls
  (.leaf .html (dedentAll f.indent (first :: html)), rest)

/-- The lines of a quote after its first, as seen from inside. After a line that
    is empty inside, only a line with the sign goes on. -/
def quoteLines (f : Frame) (lastEmpty : Bool) : List Line → List Line
  | [] => []
  | l :: ls =>
    if l.isEmpty then []
    else if startsQuote l.body && !f.excludes l then
      l.unquote :: quoteLines f l.unquote.isEmpty ls
    -- Without the sign the line can only go on a paragraph that is still open.
    else if lastEmpty || interruptsQuote f l then []
    else { l with lazy := true } :: quoteLines f lastEmpty ls

/-- A function that reads the contents of a container, up to the first line that
    does not belong to them. -/
abbrev Reader := Frame → List Line → List Node × List Line

/-- A quote, and the lines that follow. -/
def quote (read : Reader) (f : Frame) (first : Line) (ls : List Line) :
    Node × List Line :=
  let inner := first.unquote
  let view := inner :: quoteLines f inner.isEmpty ls
  let (nodes, left) := read { f with indent := 0 } view
  (.container (.named "blockquote") nodes,
    -- Lines are narrowed and not copied, so those not read are counted off the end.
    (first :: ls).drop (view.length - left.length))

/-- Whether there is no text in the first of the lines. -/
def startsEmpty : List Line → Bool
  | [] => true
  | l :: _ => l.isEmpty

/-- An item of a list, and the lines that follow. An item without text in its
    first two lines ends with the second. -/
def listItem (read : Reader) (f : Frame) (m : ListMarker) (first : Line)
    (ls : List Line) : Node × List Line :=
  let (inner, indent) := m.enter first
  let (nodes, rest) :=
    if inner.isEmpty && startsEmpty ls then ([], ls.drop 1)
    -- The item ends by itself at the first line that is indented less than its text.
    else read ⟨indent, some f.indent⟩ (inner :: ls)
  (.container (.named "list_item") nodes, rest)

/-- The marker of the next item of a list. -/
def nextItem? (f : Frame) (m : ListMarker) (l : Line) : Option ListMarker :=
  if f.excludes l || f.isCode l || interruptsList f l then none
  else (ListMarker.ofBody? l.body).filter m.continues

/-- The items of a list from the one with the marker `m` on. Each takes at least
    one line, so the number of lines is fuel enough. -/
def listItems (read : Reader) (f : Frame) :
    Nat → ListMarker → Line → List Line → List Node × List Line
  | 0, _, first, ls => ([], first :: ls)
  | fuel + 1, m, first, ls =>
    let (item, rest) := listItem read f m first ls
    match rest with
    | [] => ([item], [])
    | l :: rest' =>
      match nextItem? f m l with
      | none => ([item], rest)
      | some m =>
        let (items, rest) := listItems read f fuel m l rest'
        (item :: items, rest)

/-- A list, and the lines that follow. -/
def list (read : Reader) (f : Frame) (m : ListMarker) (first : Line)
    (ls : List Line) : Node × List Line :=
  let (items, rest) := listItems read f (ls.length + 1) m first ls
  let name := if m.number.isSome then "ordered_list" else "bullet_list"
  (.container (.named name) items, rest)

/-- The block that starts in a line, and the lines that follow it. A definition
    leaves no node. -/
def block (readQuote readItem : Reader) (f : Frame) (l : Line) (ls : List Line) :
    Option Node × List Line :=
  let one := fun r : Node × List Line => (some r.1, r.2)
  -- The order decides where several rules would take the line.
  if let some table := table? f (l :: ls) then one table
  else if f.isCode l then one (indentedCode f l ls)
  else if let some fence := Fence.ofBody? l.body then one (fencedCode f fence l ls)
  else if startsQuote l.body then one (quote readQuote f l ls)
  else if isRule l.body then (some (.leaf (.named "hr") []), ls)
  else if let some m := listMarker? f l then one (list readItem f m l ls)
  -- A definition is tried before text, for it would be text if it were not one.
  else if let some rest := afterDefinition? (goesOnDefinition f) l ls then (none, rest)
  else if let some s := HtmlStart.ofText? l.body then one (htmlBlock f s l ls)
  else if let some (depth, text) := headingOf? l.body then
    (some (.inline (.heading depth) (trim text)), ls)
  else one (paragraph f l ls)

/-- The blocks of a container up to the first line that does not belong to it.
    Each takes at least one line, so the number of lines is fuel enough. -/
def blocks (readQuote readItem : Reader) (f : Frame) :
    Nat → List Line → List Node × List Line
  | 0, ls => ([], ls)
  | fuel + 1, ls =>
    match ls.dropWhile Line.isEmpty with
    | [] => ([], [])
    | l :: ls =>
      if f.excludes l then ([], l :: ls)
      else
        let (node, rest) := block readQuote readItem f l ls
        let (nodes, rest) := blocks readQuote readItem f fuel rest
        (node.toList ++ nodes, rest)

/-- The lines that a container leaves when no level remains to read them. -/
def swallow (f : Frame) (ls : List Line) : List Node × List Line :=
  match ls.dropWhile Line.isEmpty with
  | [] => ([], [])
  | l :: ls => ([], if f.excludes l then l :: ls else [])

/-- The nodes of a container with a number of levels left. -/
def forest : Nat → Reader
  | 0, f, ls => swallow f ls
  -- With one level left containers still open, but nothing in them is read.
  | 1, f, ls => blocks (forest 0) (forest 0) f ls.length ls
  | levels + 2, f, ls =>
    blocks (forest (levels + 1)) (forest levels) f ls.length ls

/-- The number of containers that may stand in one another. -/
def maxLevels : Nat := 20

/-- The nodes of a document. -/
def parse (cs : List Char) : List Node :=
  (forest maxLevels .document (linesOf cs)).1

end OpcodeForge.Markdown
