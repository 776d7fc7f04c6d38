import Mathlib.Data.List.Forall2
import OpcodeForge.Proofs.Specification.Blocks

/-!
# Reading a Forest

The text of a heading or of a paragraph is read off the token behind the one that opens it,
wherever that token comes from. A row of tokens could end before it, and then there would be
nothing to read (`blocksOf?`). This is the only way in which reading can stop, and it takes a
row that ends with the opening token itself. The tokens of a forest never end like this, for
everything that is opened in them is closed.

So a forest is always read, and into one block for each of its outermost nodes. Which block it
is depends on that node alone. What is nested in a node counts only if the node is a heading,
a paragraph or a table, and these have to be of the right form (`Shaped`). All other containers
may hold what they like, also containers of their own kind.

## Main definitions

* `Specification.awaitsText`: A token whose block has its text in the next token.
* `Specification.blocksOf?`: The blocks of a row of tokens, if no text is missing.
* `Specification.Shaped`: A node that has the contents which its element asks for.
* `Specification.Shows`: The block that a node of the right form stands for.

## Theorems

* `blocksOf?_eq_some`: Reading stops only if the last token awaits a text.
* `awaitsText_of_getLast?`: The last token of a forest does not.
* `shows_blockOfNode`, `blockOfNode_of_shows`: A node of the right form stands for the block
  that it is read as, and for no other.
* `blocksOf?_forest`: The blocks of a forest are those that its nodes stand for.
-/

namespace OpcodeForge.Specification

open Markdown

/-- Whether the block that a token opens has its text in the next token. -/
def awaitsText : Token → Bool
  | .opening (.heading _) _ => true
  | .opening .paragraph _ => true
  | _ => false

/-- The blocks of a row of tokens, if every text that is asked for is there. -/
def blocksOf? : List Token → Option (List Block)
  | [] => some []
  | token :: rest =>
    if token.level ≠ 0 then blocksOf? rest
    else if awaitsText token && rest.isEmpty then none
    else match token with
      | .opening element level =>
        let parts := splitAtClose element level rest
        (blocksOf? parts.2).map (blockOf element parts.1 :: ·)
      | .closing element _ => (blocksOf? rest).map (.other (element.name ++ "_close") :: ·)
      | .leaf kind content _ => (blocksOf? rest).map (leafBlock kind content :: ·)
termination_by ts => ts.length
decreasing_by
  all_goals simp only [List.length_cons]
  · omega
  · have := length_splitAtClose element level rest
    omega
  · omega
  · omega

/-- What is left behind a container is the end of the row. -/
theorem splitAtClose_suffix (element : Element) (level : Nat) (ts : List Token) :
    (splitAtClose element level ts).2 <:+ ts := by
  induction ts with
  | nil => exact List.suffix_refl []
  | cons t rest ih =>
      rw [splitAtClose]
      split
      · exact List.suffix_cons t rest
      · exact ih.trans (List.suffix_cons t rest)

theorem getLast?_of_suffix (us ts : List Token) (h : us <:+ ts) (t : Token)
    (ht : us.getLast? = some t) : ts.getLast? = some t := by
  rcases h with ⟨before, rfl⟩
  rw [List.getLast?_append, ht]
  rfl

/-- Reading stops only if the last token awaits a text. -/
theorem blocksOf?_eq_some (ts : List Token)
    (h : ∀ t, ts.getLast? = some t → awaitsText t = false) : blocksOf? ts = some (blocksOf ts) := by
  induction ts using blocksOf?.induct with
  | case1 =>
      rw [blocksOf?, blocksOf]
  | case2 token rest hlevel ih =>
      have hread := ih fun t ht => h t (getLast?_of_suffix _ _ (List.suffix_cons token rest) t ht)
      cases token <;> rw [blocksOf?, blocksOf, if_pos hlevel, if_pos hlevel, hread]
  | case3 token rest hlevel hmissing =>
      -- The token stands alone, so it is the last one.
      rw [Bool.and_eq_true, List.isEmpty_iff] at hmissing
      have hlast := h token (by rw [hmissing.2]; rfl)
      exact absurd (hmissing.1.symm.trans hlast) (by decide)
  | case4 rest element level parts hlevel hmissing ih =>
      have hread := ih fun t ht => h t (getLast?_of_suffix _ _
        ((splitAtClose_suffix element level rest).trans (List.suffix_cons _ rest)) t ht)
      rw [blocksOf?, blocksOf, if_neg hlevel, if_neg hlevel, if_neg hmissing]
      exact congrArg (Option.map _) hread
  | case5 rest element level hlevel hmissing ih =>
      have hread := ih fun t ht => h t (getLast?_of_suffix _ _ (List.suffix_cons _ rest) t ht)
      rw [blocksOf?, blocksOf, if_neg hlevel, if_neg hlevel, if_neg hmissing, hread]
      rfl
  | case6 rest kind content level hlevel hmissing ih =>
      have hread := ih fun t ht => h t (getLast?_of_suffix _ _ (List.suffix_cons _ rest) t ht)
      rw [blocksOf?, blocksOf, if_neg hlevel, if_neg hlevel, if_neg hmissing, hread]
      rfl

theorem awaitsText_of_getLast?_node (level : Nat) (node : Node) (t : Token)
    (ht : (node.tokens level).getLast? = some t) : awaitsText t = false := by
  cases node with
  | leaf kind content =>
      rw [Node.tokens, List.getLast?_singleton, Option.some.injEq] at ht
      rw [← ht]
      rfl
  | container element children =>
      rw [Node.tokens, ← List.cons_append, List.getLast?_concat, Option.some.injEq] at ht
      rw [← ht]
      rfl

/-- The last token of a forest ends something, or is a leaf. -/
theorem awaitsText_of_getLast? (level : Nat) (nodes : List Node) (t : Token)
    (ht : (tokensAt level nodes).getLast? = some t) : awaitsText t = false := by
  induction nodes with
  | nil =>
      rw [tokensAt] at ht
      exact absurd ht (by simp only [List.getLast?_nil, reduceCtorEq, not_false_eq_true])
  | cons node rest ih =>
      rw [tokensAt, List.getLast?_append, Option.or_eq_some_iff] at ht
      rcases ht with ht | ⟨-, ht⟩
      · exact ih ht
      · exact awaitsText_of_getLast?_node level node t ht

/-- Whether the contents of an element are read in a way of its own. -/
def hasOwnRule : Element → Bool
  | .heading _ => true
  | .paragraph => true
  | .table => true
  | _ => false

/-- Whether the content of a leaf is read. -/
def hasText : Leaf → Bool
  | .fence => true
  | .indentedCode => true
  | .html => true
  | _ => false

/-- A node that has the contents which its element asks for. A heading and a paragraph have one
    inline text. A table has a header with one row and possibly a body, with one inline text in
    each cell. Everything else has any contents. -/
def Shaped : Node → Prop
  | .container (.heading _) children => ∃ content, children = [.leaf .inline content]
  | .container .paragraph children => ∃ content, children = [.leaf .inline content]
  | .container .table children => ∃ header body, .container .table children = tableNode header body
  | _ => True

/-- The block that a node of the right form stands for. -/
inductive Shows : Node → Block → Prop
  | heading (depth : Nat) (content : List Char) :
      Shows (.inline (.heading depth) content) (.heading depth (trimmed content))
  | paragraph (content : List Char) :
      Shows (.inline .paragraph content) (.text .paragraph (String.ofList content))
  | table (header : List (List Char)) (body : Option (List (List (List Char)))) :
      Shows (tableNode header body)
        (.table (header.map trimmed) ((body.getD []).map (List.map trimmed)))
  | fence (content : List Char) : Shows (.leaf .fence content) (.text .code (dropLineFeeds content))
  | indentedCode (content : List Char) :
      Shows (.leaf .indentedCode content) (.text .code (dropLineFeeds content))
  | html (content : List Char) : Shows (.leaf .html content) (.text .html (dropLineFeeds content))
  | container (element : Element) (children : List Node) (h : hasOwnRule element = false) :
      Shows (.container element children) (.other element.name)
  | leaf (kind : Leaf) (content : List Char) (h : hasText kind = false) :
      Shows (.leaf kind content) (.other kind.name)

/-- A node of the right form stands for the block that it is read as. -/
theorem shows_blockOfNode (node : Node) (h : Shaped node) : Shows node (blockOfNode node) := by
  cases node with
  | leaf kind content =>
      cases kind with
      | fence => exact .fence content
      | indentedCode => exact .indentedCode content
      | html => exact .html content
      | inline => exact .leaf .inline content rfl
      | named name => exact .leaf (.named name) content rfl
  | container element children =>
      cases element with
      | heading depth =>
          rcases h with ⟨content, rfl⟩
          exact .heading depth content
      | paragraph =>
          rcases h with ⟨content, rfl⟩
          exact .paragraph content
      | table =>
          rcases h with ⟨header, body, htable⟩
          rw [htable, blockOfNode_tableNode]
          exact .table header body
      | tableHead => exact .container .tableHead children rfl
      | tableBody => exact .container .tableBody children rfl
      | tableRow => exact .container .tableRow children rfl
      | tableCell => exact .container .tableCell children rfl
      | named name => exact .container (.named name) children rfl

/-- It stands for no other block. -/
theorem blockOfNode_of_shows (node : Node) (b : Block) (h : Shows node b) :
    blockOfNode node = b := by
  cases h with
  | heading depth content => rfl
  | paragraph content => rfl
  | table header body => exact blockOfNode_tableNode header body
  | fence content => rfl
  | indentedCode content => rfl
  | html content => rfl
  | container element children hrule =>
      cases element with
      | heading depth => exact absurd hrule.symm Bool.false_ne_true
      | paragraph => exact absurd hrule.symm Bool.false_ne_true
      | table => exact absurd hrule.symm Bool.false_ne_true
      | _ => rfl
  | leaf kind content htext =>
      cases kind with
      | fence => exact absurd htext.symm Bool.false_ne_true
      | indentedCode => exact absurd htext.symm Bool.false_ne_true
      | html => exact absurd htext.symm Bool.false_ne_true
      | _ => rfl

/-- A forest is read without a text that is missing, and into one block for each of its
    outermost nodes, in order: the block that this node stands for. -/
theorem blocksOf?_forest (nodes : List Node) (h : ∀ node ∈ nodes, Shaped node) :
    blocksOf? (tokens nodes) = some (blocksOf (tokens nodes)) ∧
      ∀ bs, blocksOf (tokens nodes) = bs ↔ List.Forall₂ Shows nodes bs := by
  refine ⟨blocksOf?_eq_some _ (awaitsText_of_getLast? 0 nodes), fun bs => ?_⟩
  rw [blocksOf_tokens]
  constructor
  · rintro rfl
    exact List.forall₂_map_right_iff.mpr
      (List.forall₂_same.mpr fun node hmem => shows_blockOfNode node (h node hmem))
  · intro hshows
    induction hshows with
    | nil => rfl
    | cons hnode _ ih =>
        rw [List.map_cons, blockOfNode_of_shows _ _ hnode,
          ih fun node hmem => h node (List.mem_cons_of_mem _ hmem)]

/-- A quote that holds a quote, with a heading, a table and a paragraph inside that belong to no
    block of the document, between two blocks that do. -/
def nestedQuote : List Node :=
  let inner := Node.container (.named "blockquote")
    [.inline (.heading 2) ['x'], .table [['a']] [[['b']]], .inline .paragraph ['y']]
  [.inline (.heading 2) [' ', 'T', ' '],
    .container (.named "blockquote") [inner, inner, .leaf .fence ['c', '\n']],
    tableNode [['m'], [' ', 'n']] (some []), .leaf .fence ['l', '\n', '\n']]

/-- Neither the headings inside the quote nor the ends of the inner quotes are mistaken for
    something outside. -/
theorem blocksOf?_nestedQuote : (∀ node ∈ nestedQuote, Shaped node) ∧
    blocksOf? (tokens nestedQuote) = some [.heading 2 "T", .other "blockquote",
      .table ["m", "n"] [], .text .code "l"] := by
  have hshaped : ∀ node ∈ nestedQuote, Shaped node := by
    simp only [nestedQuote, List.forall_mem_cons, List.not_mem_nil, false_implies, implies_true,
      and_true]
    exact ⟨⟨_, rfl⟩, trivial, ⟨_, _, rfl⟩, trivial⟩
  rcases blocksOf?_forest nestedQuote hshaped with ⟨hread, hblocks⟩
  refine ⟨hshaped, hread.trans (congrArg some ((hblocks _).mpr ?_))⟩
  exact .cons (.heading 2 _) (.cons (.container _ _ rfl) (.cons (.table _ (some []))
    (.cons (.fence _) .nil)))

end OpcodeForge.Specification
