/-!
# Document Tokens

A document is a forest of nodes, and it is handed on as a flat row of tokens:
each container is written as an opening token, the tokens of its contents, and
a closing token at the same level. The level counts the containers around a
token, so the row says where each container ends without being nested itself.

Inline text is not parsed. A heading, a paragraph and each cell of a table hold
one leaf with the text as it stands in the document.

## Main definitions

* `Markdown.Element`: What a container is.
* `Markdown.Leaf`: What a piece of text is.
* `Markdown.Token`: An opening, a closing or a leaf at its level.
* `Markdown.Node`: A part of a document with everything inside it.
* `Markdown.tokens`: The tokens of a forest.
-/

namespace OpcodeForge.Markdown

/-- What a container is. Elements without a rule of their own are known by their
    name alone. -/
inductive Element
  | heading (depth : Nat)
  | paragraph
  | table
  | tableHead
  | tableBody
  | tableRow
  | tableCell
  | named (name : String)
  deriving DecidableEq, Repr

/-- The name of an element. -/
def Element.name : Element → String
  | .heading _ => "heading"
  | .paragraph => "paragraph"
  | .table => "table"
  | .tableHead => "thead"
  | .tableBody => "tbody"
  | .tableRow => "tr"
  | .tableCell => "td"
  | .named name => name

/-- What a leaf is: inline text, a fenced or an indented code block, an HTML
    block, or something that is known by its name alone. -/
inductive Leaf
  | inline
  | fence
  | indentedCode
  | html
  | named (name : String)
  deriving DecidableEq, Repr

/-- The name of a leaf. -/
def Leaf.name : Leaf → String
  | .inline => "inline"
  | .fence => "fence"
  | .indentedCode => "code_block"
  | .html => "html_block"
  | .named name => name

/-- A token, with the number of containers around it. -/
inductive Token
  | opening (element : Element) (level : Nat)
  | closing (element : Element) (level : Nat)
  | leaf (kind : Leaf) (content : List Char) (level : Nat)
  deriving DecidableEq, Repr

/-- The number of containers around a token. -/
def Token.level : Token → Nat
  | .opening _ level => level
  | .closing _ level => level
  | .leaf _ _ level => level

/-- A part of a document. -/
inductive Node
  | leaf (kind : Leaf) (content : List Char)
  | container (element : Element) (children : List Node)

/-- An element that holds one piece of inline text. -/
def Node.inline (element : Element) (content : List Char) : Node :=
  .container element [.leaf .inline content]

/-- A row of a table. -/
def Node.tableRow (cells : List (List Char)) : Node :=
  .container .tableRow (cells.map (Node.inline .tableCell))

/-- A table with a header. Without rows there is no body at all. -/
def Node.table (header : List (List Char)) (rows : List (List (List Char))) :
    Node :=
  let head := Node.container .tableHead [Node.tableRow header]
  let body := Node.container .tableBody (rows.map Node.tableRow)
  .container .table (if rows.isEmpty then [head] else [head, body])

mutual

/-- The tokens of a node at a level. -/
def Node.tokens (level : Nat) : Node → List Token
  | .leaf kind content => [.leaf kind content level]
  | .container element children =>
    .opening element level ::
      (tokensAt (level + 1) children ++ [.closing element level])

/-- The tokens of several nodes at a level. -/
def tokensAt (level : Nat) : List Node → List Token
  | [] => []
  | node :: nodes => node.tokens level ++ tokensAt level nodes

end

/-- The tokens of a forest. -/
def tokens (nodes : List Node) : List Token :=
  tokensAt 0 nodes

end OpcodeForge.Markdown
