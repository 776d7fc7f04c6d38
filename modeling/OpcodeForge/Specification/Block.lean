import OpcodeForge.Markdown.Document
import OpcodeForge.Text.Blank

/-!
# Specification Blocks

Only the outermost blocks of a document matter for a specification: headings
name its sections, and the block after a heading is the section's content. What
is nested in a list or a quote belongs to that container, and the container is
known by its name alone.

Blocks are read off the row of tokens. An opening token at the outermost level
starts a block that reaches to the closing token of the same element at the
same level, so containers may hold others of their own kind.

## Main definitions

* `Specification.Block`: A heading, a table, a text, or any other block.
* `Specification.blocksOf`: The blocks of a row of tokens.
* `Specification.readBlocks`: The blocks of a document.
-/

namespace OpcodeForge.Specification

open Markdown

/-- What a text block is in the document. -/
inductive TextKind
  | code
  | paragraph
  | html
  deriving DecidableEq, Repr

/-- An outermost block of a document. -/
inductive Block
  | heading (depth : Nat) (text : String)
  /-- The rows do not include the header. -/
  | table (header : List String) (rows : List (List String))
  | text (kind : TextKind) (text : String)
  | other (name : String)
  deriving DecidableEq, Repr

/-- A text without the line feeds at its end. -/
def dropLineFeeds (cs : List Char) : String :=
  String.ofList (Text.dropEndWhile (· == '\n') cs)

/-- A text without the blanks around it. -/
def trimmed (cs : List Char) : String :=
  String.ofList (Text.trim cs)

/-- The content of the first leaf. -/
def firstContent : List Token → List Char
  | .leaf _ content _ :: _ => content
  | _ => []

/-- Splits the tokens behind an opening token into those inside the container,
    with the closing token, and those after it. A container that is never closed
    takes all of them. -/
def splitAtClose (element : Element) (level : Nat) :
    List Token → List Token × List Token
  | [] => ([], [])
  | token :: rest =>
    -- The closing token belongs to the container, whose reader skips it.
    if token == .closing element level then ([token], rest)
    else
      let (inside, after) := splitAtClose element level rest
      (token :: inside, after)

/-- The header and the rows read so far from the tokens of a table. -/
structure TableReading where
  inHeader : Bool
  cells : List String
  header : List String
  rows : List (List String)

/-- Takes in one token of a table. -/
def TableReading.step (r : TableReading) : Token → TableReading
  | .opening .tableHead _ => { r with inHeader := true }
  | .closing .tableHead _ => { r with inHeader := false }
  | .opening .tableRow _ => { r with cells := [] }
  | .leaf .inline content _ => { r with cells := r.cells ++ [trimmed content] }
  | .closing .tableRow _ =>
    if r.inHeader then { r with header := r.cells }
    else { r with rows := r.rows ++ [r.cells] }
  | _ => r

/-- The table with the given tokens. -/
def tableOf (inside : List Token) : Block :=
  let r := inside.foldl TableReading.step ⟨false, [], [], []⟩
  .table r.header r.rows

/-- The block of an outermost container with the given tokens inside. -/
def blockOf (element : Element) (inside : List Token) : Block :=
  match element with
  | .heading depth => .heading depth (trimmed (firstContent inside))
  | .table => tableOf inside
  | .paragraph => .text .paragraph (String.ofList (firstContent inside))
  | element => .other element.name

/-- The block of an outermost leaf. -/
def leafBlock (kind : Leaf) (content : List Char) : Block :=
  match kind with
  | .fence => .text .code (dropLineFeeds content)
  | .indentedCode => .text .code (dropLineFeeds content)
  | .html => .text .html (dropLineFeeds content)
  | kind => .other kind.name

theorem length_splitAtClose (element : Element) (level : Nat) (ts : List Token) :
    (splitAtClose element level ts).2.length ≤ ts.length := by
  induction ts with
  | nil => simp [splitAtClose]
  | cons t ts ih =>
    unfold splitAtClose
    split
    · simp
    · simp only [List.length_cons]
      omega

/-- The blocks of a row of tokens. Tokens inside a container make no block of
    their own. -/
def blocksOf : List Token → List Block
  | [] => []
  | token :: rest =>
    -- Such a token is left over from a container that was not closed.
    if token.level ≠ 0 then blocksOf rest
    else match token with
      | .opening element level =>
        let parts := splitAtClose element level rest
        blockOf element parts.1 :: blocksOf parts.2
      | .closing element _ => .other (element.name ++ "_close") :: blocksOf rest
      | .leaf kind content _ => leafBlock kind content :: blocksOf rest
termination_by ts => ts.length
decreasing_by
  all_goals simp only [List.length_cons]
  · omega
  · have := length_splitAtClose element level rest
    omega
  · omega
  · omega

/-- The blocks of a document. -/
def readBlocks (text : String) : List Block :=
  blocksOf (tokens (parse text.toList))

end OpcodeForge.Specification
