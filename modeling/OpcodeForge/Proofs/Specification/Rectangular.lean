import OpcodeForge.Proofs.Specification.Blocks
import OpcodeForge.Proofs.Specification.Documents

/-!
# Tables Are Rectangular

The lines of a table may have any number of pipes in them, and so any number of cells. The row
that is read from a line has as many cells as the header all the same, because what is missing
is filled up and what is too much is dropped. The header has at least one cell, for a line of
dashes that stands for no column starts no table.

There is only one rule that reads tables, and no other rule makes a node that looks like one, so
this holds of every block of every document (`Markdown.isRectangular_block`). Hence a document
cannot have some rows that are too short and some that are not. Either all of them have the
columns that are needed, or each of them is reported, with the width of the header.

## Main definitions

* `Markdown.IsRectangular`: A table has a header, and each row is as wide as that.

## Theorems

* `Markdown.length_of_mem_tableRows`: A row is as wide as the header, whatever its line has.
* `Markdown.isRectangular_block`, `Markdown.isRectangular_blocks`: The node that comes first, and
  all nodes of a container.
* `Specification.exists_of_extract`: The rows of an instruction are those of a table.
* `Specification.readBlocks_rectangular`: The tables of a document, and what this means for the
  rows of its instruction.
-/

namespace OpcodeForge

namespace Markdown

/-- If the node is a table then it has a header, and each of its rows is as wide as that. -/
def IsRectangular : Node → Prop
  | .container .table children => ∃ header rows,
      Node.container .table children = .table header rows ∧ header ≠ [] ∧
        ∀ row ∈ rows, row.length = header.length
  | _ => True

/-- A header has one cell for each column, and there is at least one column. -/
theorem ne_nil_of_tableHeader? (f : Frame) (ls rest : List Line) (header : List (List Char))
    (h : tableHeader? f ls = some (header, rest)) : header ≠ [] := by
  unfold tableHeader? at h
  split at h
  · split at h
    · exact absurd h (by simp only [reduceCtorEq, not_false_eq_true])
    split at h
    · exact absurd h (by simp only [reduceCtorEq, not_false_eq_true])
    · rename_i first _ _ _ _ count _
      dsimp only at h
      split at h
      · rename_i hcond
        simp only [Bool.and_eq_true, decide_eq_true_eq] at hcond
        rw [Option.some.injEq, Prod.mk.injEq] at h
        intro hnil
        have hlen := length_fitCells count (cells (trim first.body))
        rw [h.1, hnil] at hlen
        exact hcond.1.2 hlen.symm
      · exact absurd h (by simp only [reduceCtorEq, not_false_eq_true])
  · exact absurd h (by simp only [reduceCtorEq, not_false_eq_true])

/-- A row has one cell for each column, whatever its line has. -/
theorem length_of_mem_tableRows (f : Frame) (count : Nat) (ls : List Line) :
    ∀ lacking, ∀ row ∈ (tableRows f count lacking ls).1, row.length = count := by
  induction ls with
  | nil =>
      intro lacking row hrow
      exact absurd hrow List.not_mem_nil
  | cons l rest ih =>
      intro lacking row hrow
      rw [tableRows] at hrow
      dsimp only at hrow
      split at hrow
      · exact absurd hrow List.not_mem_nil
      · rcases List.mem_cons.mp hrow with rfl | hrow
        · exact length_fitCells count _
        · exact ih _ row hrow

theorem isRectangular_of_table? (f : Frame) (ls rest : List Line) (node : Node)
    (h : table? f ls = some (node, rest)) : IsRectangular node := by
  rcases Option.map_eq_some_iff.mp h with ⟨⟨header, below⟩, hheader, hnode⟩
  rw [← (Prod.mk.inj hnode).1]
  exact ⟨header, _, rfl, ne_nil_of_tableHeader? f ls below header hheader,
    length_of_mem_tableRows f header.length below 0⟩

theorem isRectangular_paragraph (f : Frame) (first : Line) (ls : List Line) :
    IsRectangular (paragraph f first ls).1 := by
  unfold paragraph
  dsimp only
  split
  · trivial
  · trivial

/-- The node that comes first. Only the rule for tables makes a table. -/
theorem isRectangular_block (readQuote readItem : Reader) (f : Frame) (l : Line) (ls : List Line)
    (node : Node) (h : (block readQuote readItem f l ls).1 = some node) : IsRectangular node := by
  unfold block at h
  dsimp only at h
  split at h
  · rename_i table htable
    exact isRectangular_of_table? f _ table.2 node (by rw [htable, ← Option.some.inj h])
  -- The other rules, in their order, up to text that no rule wants.
  split at h
  · rw [← Option.some.inj h]
    trivial
  split at h
  · rw [← Option.some.inj h]
    trivial
  split at h
  · rw [← Option.some.inj h]
    trivial
  split at h
  · rw [← Option.some.inj h]
    trivial
  split at h
  · rw [← Option.some.inj h]
    trivial
  split at h
  · exact absurd h (by simp only [reduceCtorEq, not_false_eq_true])
  split at h
  · rw [← Option.some.inj h]
    trivial
  split at h
  · rw [← Option.some.inj h]
    trivial
  · rw [← Option.some.inj h]
    exact isRectangular_paragraph f l ls

/-- All nodes of a container, however containers inside it are read. -/
theorem isRectangular_blocks (readQuote readItem : Reader) (f : Frame) (fuel : Nat) :
    ∀ ls, ∀ node ∈ (blocks readQuote readItem f fuel ls).1, IsRectangular node := by
  induction fuel with
  | zero =>
      intro ls node hnode
      exact absurd hnode List.not_mem_nil
  | succ fuel ih =>
      intro ls node hnode
      rw [blocks] at hnode
      split at hnode
      · exact absurd hnode List.not_mem_nil
      split at hnode
      · exact absurd hnode List.not_mem_nil
      · dsimp only at hnode
        rcases List.mem_append.mp hnode with hnode | hnode
        · exact isRectangular_block _ _ f _ _ node (Option.mem_toList.mp hnode)
        · exact ih _ node hnode

theorem isRectangular_parse (cs : List Char) : ∀ node ∈ parse cs, IsRectangular node :=
  isRectangular_blocks (forest 19) (forest 18) .document _ (linesOf cs)

end Markdown

namespace Specification

open Markdown

/-- A block that is a table comes from a node that is one. -/
theorem rectangular_of_blockOfNode (node : Node) (header : List String)
    (rows : List (List String)) (h : IsRectangular node)
    (hblock : blockOfNode node = .table header rows) :
    header ≠ [] ∧ ∀ row ∈ rows, row.length = header.length := by
  cases node with
  | leaf kind content =>
      cases kind <;> exact absurd hblock (by
        simp only [blockOfNode, leafBlock, reduceCtorEq, not_false_eq_true])
  | container element children =>
      cases element with
      | table =>
          rcases h with ⟨names, found, htable, hne, hrows⟩
          rw [htable, blockOfNode_table, Block.table.injEq] at hblock
          rcases hblock with ⟨rfl, rfl⟩
          refine ⟨fun hnil => hne (List.map_eq_nil_iff.mp hnil), fun row hrow => ?_⟩
          rcases List.mem_map.mp hrow with ⟨cells, hcells, rfl⟩
          rw [List.length_map, List.length_map]
          exact hrows cells hcells
      | _ => exact absurd hblock (by
          simp only [blockOfNode, blockOf, reduceCtorEq, not_false_eq_true])

/-- The rows of an instruction are those of a table of its document. -/
theorem exists_of_extract (headings : Headings) (identifier : String) (bs : List Block)
    (instruction : Instruction) (log : List Log.Line) (rows : List Opcode.Row)
    (h : extract headings identifier bs = .ok (instruction, log))
    (hrows : instruction.rows = some rows) :
    ∃ header cells, .table header cells ∈ bs ∧ rows = cells.map Opcode.Row.mk := by
  unfold extract at h
  split at h
  · exact absurd h (by simp only [reduceCtorEq, not_false_eq_true])
  · rw [Except.ok.injEq, Prod.mk.injEq] at h
    rw [← h.1] at hrows
    rcases Option.bind_eq_some_iff.mp hrows with ⟨b, hb, hrowsOf⟩
    rcases (sectionAfter?_eq_some_iff _ bs b).mp hb with ⟨before, heading, after, rfl, -⟩
    cases b with
    | table header cells =>
        refine ⟨header, cells, ?_, (Option.some.inj hrowsOf).symm⟩
        exact List.mem_append_right before (List.mem_cons_of_mem heading List.mem_cons_self)
    | _ => exact absurd hrowsOf (by simp only [Block.rows?, reduceCtorEq, not_false_eq_true])

/-- The tables of a document have a header and are rectangular. The rows of an instruction that it
specifies are those of such a table, so all of them have the columns that are needed or none has,
which is a matter of the header. -/
theorem readBlocks_rectangular (text : String) :
    (∀ header rows, Block.table header rows ∈ readBlocks text →
      header ≠ [] ∧ ∀ row ∈ rows, row.length = header.length) ∧
    ∀ headings identifier instruction log rows,
      extract headings identifier (readBlocks text) = .ok (instruction, log) →
      instruction.rows = some rows →
      ∃ header cells, .table header cells ∈ readBlocks text ∧ rows = cells.map Opcode.Row.mk ∧
        (minColumns ≤ header.length ∧ (∀ r ∈ rows, r.checkShape identifier = .ok ()) ∨
        header.length < minColumns ∧ ∀ r ∈ rows,
          r.checkShape identifier = .error (r.report identifier (.tooShort header.length))) := by
  have htables : ∀ header rows, Block.table header rows ∈ readBlocks text →
      header ≠ [] ∧ ∀ row ∈ rows, row.length = header.length := by
    intro header rows hmem
    rw [readBlocks, blocksOf_tokens] at hmem
    rcases List.mem_map.mp hmem with ⟨node, hnode, hblock⟩
    exact rectangular_of_blockOfNode node header rows
      (isRectangular_parse _ node hnode) hblock
  refine ⟨htables, ?_⟩
  intro headings identifier instruction log rows hextract hrows
  rcases exists_of_extract headings identifier _ instruction log rows hextract hrows with
    ⟨header, cells, hmem, rfl⟩
  refine ⟨header, cells, hmem, rfl, ?_⟩
  have hwidth : ∀ r ∈ cells.map Opcode.Row.mk, r.cells.length = header.length := by
    intro r hr
    rcases List.mem_map.mp hr with ⟨row, hrow, rfl⟩
    exact (htables header cells hmem).2 row hrow
  rcases Nat.lt_or_ge header.length minColumns with hlt | hge
  · refine Or.inr ⟨hlt, fun r hr => ?_⟩
    rw [Opcode.Row.checkShape, hwidth r hr, if_pos hlt]
  · refine Or.inl ⟨hge, fun r hr => ?_⟩
    rw [Opcode.Row.checkShape, hwidth r hr, if_neg (Nat.not_lt.mpr hge)]

/-- A document with a table whose lines have too few cells and too many, and with another table
inside a list. -/
def ragged : String :=
  "## Addresing Modes\n\n| a | b |\n|---|---|\n| 1 |\n| 2 | 3 | 4 |\n\n" ++
    "## Implementation\n\nCLC\n\n- | c |\n  |---|\n"

/-- The table and the rows of the document are as wide as the header, and too short. -/
theorem readBlocks_ragged :
    Block.table ["a", "b"] [["1", ""], ["2", "3"]] ∈ readBlocks ragged ∧
    (∀ row ∈ [["1", ""], ["2", "3"]], row.length = ["a", "b"].length) ∧
    ∃ header cells, .table header cells ∈ readBlocks ragged ∧
      [Opcode.Row.mk ["1", ""], ⟨["2", "3"]⟩] = cells.map Opcode.Row.mk ∧
      (minColumns ≤ header.length ∧
        (∀ r ∈ [Opcode.Row.mk ["1", ""], ⟨["2", "3"]⟩], r.checkShape "CLC" = .ok ()) ∨
      header.length < minColumns ∧ ∀ r ∈ [Opcode.Row.mk ["1", ""], ⟨["2", "3"]⟩],
        r.checkShape "CLC" = .error (r.report "CLC" (.tooShort header.length))) := by
  have hblocks : readBlocks ragged = [.heading 2 "Addresing Modes",
      .table ["a", "b"] [["1", ""], ["2", "3"]], .heading 2 "Implementation",
      .text .paragraph "CLC", .other "bullet_list"] := by
    rw [readBlocks, blocksOf_tokens]
    decide +kernel
  have hmem : Block.table ["a", "b"] [["1", ""], ["2", "3"]] ∈ readBlocks ragged := by
    rw [hblocks]
    decide
  refine ⟨hmem, ((readBlocks_rectangular ragged).1 _ _ hmem).2, ?_⟩
  exact (readBlocks_rectangular ragged).2 Headings.default "CLC"
    ⟨"CLC", "CLC", some [⟨["1", ""]⟩, ⟨["2", "3"]⟩], ""⟩ [] _
    (by rw [hblocks]; rfl) rfl

end Specification

end OpcodeForge
