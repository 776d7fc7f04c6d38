import OpcodeForge.Specification.Block

/-!
# Blocks of a Forest

Tokens are a flat row, and what belongs to a container is found by looking for its
closing token. That search could end too early, at the end of something inside the
container, or go on too far. It does neither, because everything inside a container is
at a deeper level (`le_level_of_mem_tokensAt`). So the blocks of a document are those
of its outermost nodes, one for each and in order (`blocksOf_tokens`).

## Main definitions

* `Specification.blockOfNode`: The block of an outermost node.
* `Specification.tableNode`: A table with a header, and with a body or without one.

## Theorems

* `le_level_of_mem_tokensAt`: Nodes have no tokens above their level.
* `splitAtClose_append`: A container ends with its own closing token.
* `blocksOf_tokens`: The blocks of a document are those of its nodes.
* `blockOfNode_tableNode`: The block of a table has the cells of its header and its rows.
-/

namespace OpcodeForge.Specification

open Markdown

mutual

theorem le_level_of_mem_tokens (level : Nat) (node : Node) (t : Token)
    (h : t ∈ node.tokens level) : level ≤ t.level := by
  cases node with
  | leaf kind content =>
      rw [Node.tokens, List.mem_singleton] at h
      rw [h]
      exact Nat.le_refl level
  | container element children =>
      rw [Node.tokens, List.mem_cons, List.mem_append, List.mem_singleton] at h
      rcases h with rfl | h | rfl
      · exact Nat.le_refl level
      · exact Nat.le_of_succ_le (le_level_of_mem_tokensAt (level + 1) children t h)
      · exact Nat.le_refl level

/-- Nodes have no tokens above their level. -/
theorem le_level_of_mem_tokensAt (level : Nat) (nodes : List Node) (t : Token)
    (h : t ∈ tokensAt level nodes) : level ≤ t.level := by
  cases nodes with
  | nil => exact absurd h List.not_mem_nil
  | cons node rest =>
      rw [tokensAt, List.mem_append] at h
      rcases h with h | h
      · exact le_level_of_mem_tokens level node t h
      · exact le_level_of_mem_tokensAt level rest t h

end

/-- A container ends with its own closing token, and not with one inside it. -/
theorem splitAtClose_append (element : Element) (level : Nat) (inside rest : List Token)
    (h : ∀ t ∈ inside, level < t.level) :
    splitAtClose element level (inside ++ .closing element level :: rest)
      = (inside ++ [.closing element level], rest) := by
  induction inside with
  | nil =>
      rw [List.nil_append, splitAtClose, beq_self_eq_true]
      rfl
  | cons t more ih =>
      have hne : ¬(t == .closing element level) = true := by
        rw [beq_iff_eq]
        intro heq
        have hlt := h t List.mem_cons_self
        rw [heq] at hlt
        exact Nat.lt_irrefl level hlt
      rw [List.cons_append, splitAtClose, if_neg hne,
        ih fun x hx => h x (List.mem_cons_of_mem t hx)]
      rfl

/-- The block of an outermost node. -/
def blockOfNode : Node → Block
  | .leaf kind content => leafBlock kind content
  | .container element children =>
    blockOf element (tokensAt 1 children ++ [.closing element 0])

/-- The blocks of a document are those of its nodes, one for each and in order. -/
theorem blocksOf_tokens (nodes : List Node) : blocksOf (tokens nodes) = nodes.map blockOfNode := by
  unfold tokens
  induction nodes with
  | nil =>
      rw [tokensAt, blocksOf]
      rfl
  | cons node rest ih =>
      rw [tokensAt, List.map_cons, ← ih]
      cases node with
      | leaf kind content =>
          rw [Node.tokens, List.singleton_append, blocksOf]
          rfl
      | container element children =>
          have hinside : ∀ t ∈ tokensAt 1 children, 0 < t.level :=
            fun t ht => le_level_of_mem_tokensAt 1 children t ht
          rw [Node.tokens, List.cons_append, List.append_assoc, List.singleton_append, blocksOf]
          simp only [Token.level, ne_eq, not_true_eq_false, if_false,
            splitAtClose_append element 0 (tokensAt 1 children) _ hinside]
          rfl

theorem foldl_step_cells (row : List (List Char)) : ∀ (r : TableReading) (level : Nat),
    (tokensAt level (row.map (Node.inline .tableCell))).foldl TableReading.step r
      = { r with cells := r.cells ++ row.map trimmed } := by
  induction row with
  | nil =>
      intro r level
      simp only [List.map_nil, tokensAt, List.foldl_nil, List.append_nil]
  | cons cs rest ih =>
      intro r level
      rw [List.map_cons, tokensAt, List.foldl_append,
        show (Node.inline .tableCell cs).tokens level = [.opening .tableCell level,
          .leaf .inline cs (level + 1), .closing .tableCell level] from rfl]
      simp only [List.foldl_cons, List.foldl_nil, TableReading.step, ih, List.map_cons,
        List.append_assoc, List.singleton_append]

/-- A row of the header is the header, and a row of the body is added to the rows. -/
theorem foldl_step_row (row : List (List Char)) (r : TableReading) (level : Nat) :
    ((Node.tableRow row).tokens level).foldl TableReading.step r
      = if r.inHeader then { r with cells := row.map trimmed, header := row.map trimmed }
        else { r with cells := row.map trimmed, rows := r.rows ++ [row.map trimmed] } := by
  rw [Node.tableRow, Node.tokens, List.foldl_cons, List.foldl_append, TableReading.step,
    foldl_step_cells]
  simp only [List.foldl_cons, List.foldl_nil, TableReading.step, List.nil_append]

/-- Rows of the body are added one after the other. What is left over is the row that
    was read last. -/
theorem foldl_step_rows (rows : List (List (List Char))) (header : List String) (level : Nat) :
    ∀ (left : List String) (found : List (List String)), ∃ last,
      (tokensAt level (rows.map Node.tableRow)).foldl TableReading.step
          ⟨false, left, header, found⟩
        = ⟨false, last, header, found ++ rows.map (List.map trimmed)⟩ := by
  induction rows with
  | nil =>
      intro left found
      refine ⟨left, ?_⟩
      simp only [List.map_nil, tokensAt, List.foldl_nil, List.append_nil]
  | cons row rest ih =>
      intro left found
      rcases ih (row.map trimmed) (found ++ [row.map trimmed]) with ⟨last, hlast⟩
      refine ⟨last, ?_⟩
      rw [List.map_cons, tokensAt, List.foldl_append, foldl_step_row]
      simp only [Bool.false_eq_true, if_false]
      rw [hlast, List.append_assoc]
      rfl

/-- A table with a header, and with a body or without one. -/
def tableNode (header : List (List Char)) (body : Option (List (List (List Char)))) : Node :=
  .container .table (.container .tableHead [Node.tableRow header] ::
    (body.map fun rows => .container .tableBody (rows.map Node.tableRow)).toList)

/-- The block of a table has the cells of its header and of its rows, without the blanks
    around them. -/
theorem blockOfNode_tableNode (header : List (List Char))
    (body : Option (List (List (List Char)))) :
    blockOfNode (tableNode header body)
      = .table (header.map trimmed) ((body.getD []).map (List.map trimmed)) := by
  have hhead : ∀ r : TableReading,
      ((Node.container .tableHead [Node.tableRow header]).tokens 1).foldl TableReading.step r
        = { r with
            inHeader := false
            cells := header.map trimmed
            header := header.map trimmed } := by
    intro r
    rw [Node.tokens, List.foldl_cons, List.foldl_append, tokensAt, tokensAt, List.append_nil,
      foldl_step_row]
    rfl
  unfold tableNode blockOfNode blockOf tableOf
  cases body with
  | none =>
      simp only [Option.map_none, Option.toList_none, tokensAt, List.append_nil,
        List.foldl_append, hhead, List.foldl_cons, List.foldl_nil, TableReading.step,
        Option.getD_none, List.map_nil]
  | some rows =>
      rcases foldl_step_rows rows (header.map trimmed) 2 (header.map trimmed) []
        with ⟨last, hlast⟩
      have hbody : ((Node.container .tableBody (rows.map Node.tableRow)).tokens 1).foldl
          TableReading.step ⟨false, header.map trimmed, header.map trimmed, []⟩
          = ⟨false, last, header.map trimmed, rows.map (List.map trimmed)⟩ := by
        have hopening : ∀ r : TableReading, r.step (.opening .tableBody 1) = r := fun r => rfl
        rw [Node.tokens, List.foldl_cons, List.foldl_append, hopening, hlast, List.nil_append]
        rfl
      simp only [Option.map_some, Option.toList_some, tokensAt, List.append_nil,
        List.foldl_append, hhead, hbody]
      rfl

/-- A table that is read from a document has no body unless it has rows. -/
theorem blockOfNode_table (header : List (List Char)) (rows : List (List (List Char))) :
    blockOfNode (.table header rows)
      = .table (header.map trimmed) (rows.map (List.map trimmed)) := by
  cases rows with
  | nil => exact blockOfNode_tableNode header none
  | cons row rest => exact blockOfNode_tableNode header (some (row :: rest))

end OpcodeForge.Specification
