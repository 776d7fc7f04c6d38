import OpcodeForge.Proofs.Markdown.Reads
import OpcodeForge.Proofs.Text.Digit

/-!
# Written Tables

A row is written with a pipe around each cell and a space on either side of it. It is
read back cell by cell, as long as no cell holds a pipe, which would end it, or a
backslash, which would keep the next pipe from ending it. The spaces around a cell are
cut off again, so the cell must not begin or end with a space of its own. An empty cell
is written as two spaces and comes back empty.

A written row starts with a pipe and so is no block of its own, and the table goes on
to the first line that is empty.

## Main definitions

* `Markdown.IsCell`: A text that a cell can hold.
* `Markdown.rowChars`: A row as it is written.
* `Markdown.delimiterChars`: The delimiter row of five columns.

## Theorems

* `isBlank_of_isSpace`: The spaces of a document are blanks.
* `trim_pad`: A cell without the spaces around it.
* `cells_rowChars`: The cells of a written row.
* `tableRows_eq`: The rows of a written table.
* `block_table`: A written table is read as it was written.
-/

namespace OpcodeForge.Markdown

/-- The spaces of a document are blanks. -/
theorem isBlank_of_isSpace (c : Char) (h : isSpace c = true) : Text.isBlank c = true := by
  unfold isSpace at h
  unfold Text.isBlank
  simp only [Bool.or_eq_true, Bool.and_eq_true, decide_eq_true_eq, beq_iff_eq] at h ⊢
  omega

/-- A text that a cell can hold: nothing in it ends the cell, and no blanks are around
    it. -/
structure IsCell (cs : List Char) : Prop where
  pipe : '|' ∉ cs
  backslash : '\\' ∉ cs
  trimmed : Text.trim cs = cs

/-- A cell with a space on either side of it. -/
def pad (cs : List Char) : List Char := ' ' :: cs ++ [' ']

/-- A row as it is written. -/
def rowChars (row : List (List Char)) : List Char :=
  '|' :: row.flatMap fun cs => pad cs ++ ['|']

/-- The delimiter row of five columns. -/
def delimiterChars : List Char := "|---|---|---|---|---|".toList

theorem head?_of_trim_eq_self (cs : List Char) (h : Text.trim cs = cs) (c : Char)
    (hc : cs.head? = some c) : Text.isBlank c = false := by
  rcases cs with _ | ⟨d, rest⟩
  · exact absurd hc (by simp only [List.head?_nil, reduceCtorEq, not_false_eq_true])
  · rw [List.head?_cons, Option.some.injEq] at hc
    subst hc
    cases hd : Text.isBlank d with
    | false => rfl
    | true =>
        -- A blank at the start is cut off, so the text gets shorter.
        have hlen := congrArg List.length h
        have hstart : (Text.trimStart (d :: rest)).length ≤ rest.length := by
          unfold Text.trimStart
          rw [List.dropWhile_cons_of_pos hd]
          exact (List.dropWhile_suffix _).length_le
        have hend : (Text.trim (d :: rest)).length ≤ (Text.trimStart (d :: rest)).length := by
          unfold Text.trim Text.trimEnd Text.dropEndWhile
          rw [List.length_reverse]
          refine Nat.le_trans (List.dropWhile_suffix _).length_le ?_
          rw [List.length_reverse]
        rw [List.length_cons] at hlen
        omega

theorem getLast?_of_trim_eq_self (cs : List Char) (h : Text.trim cs = cs) (c : Char)
    (hc : cs.getLast? = some c) : Text.isBlank c = false := by
  have hend : Text.dropEndWhile Text.isBlank (Text.trimStart cs) = cs := h
  unfold Text.dropEndWhile at hend
  rw [← hend, List.getLast?_reverse] at hc
  have hstop := List.head?_dropWhile_not Text.isBlank (Text.trimStart cs).reverse
  rw [hc] at hstop
  exact hstop

/-- A text without spaces around it is its own trimmed form. -/
theorem trim_eq_self (cs : List Char) (hd : ∀ c, cs.head? = some c → isSpace c = false)
    (hl : ∀ c, cs.getLast? = some c → isSpace c = false) : trim cs = cs := by
  by_cases hne : cs = []
  · rw [hne]
    rfl
  · have hends := Text.dropEndWhile_dropWhile_of_ends isSpace [] cs [] hne
      (fun _ h => absurd h List.not_mem_nil) (fun _ h => absurd h List.not_mem_nil) hd hl
    rw [List.nil_append, List.append_nil] at hends
    exact hends

/-- A cell without the spaces around it. -/
theorem trim_pad (cs : List Char) (h : Text.trim cs = cs) : trim (pad cs) = cs := by
  have hnot : ∀ c, Text.isBlank c = false → isSpace c = false := by
    intro c hc
    cases hs : isSpace c with
    | false => rfl
    | true => rw [isBlank_of_isSpace c hs] at hc; exact absurd hc (by decide)
  have hhead : ∀ c, cs.head? = some c → isSpace c = false :=
    fun c hc => hnot c (head?_of_trim_eq_self cs h c hc)
  have hself : trim cs = cs := trim_eq_self cs hhead
    fun c hc => hnot c (getLast?_of_trim_eq_self cs h c hc)
  have hspace : isSpace ' ' = true := by decide
  rcases cs with _ | ⟨b, rest⟩
  · rfl
  · have hb : ¬isSpace b = true := by
      rw [hhead b rfl]
      exact Bool.false_ne_true
    unfold trim Text.dropEndWhile at hself ⊢
    rw [List.dropWhile_cons_of_neg hb] at hself
    unfold pad
    rw [List.cons_append, List.dropWhile_cons_of_pos hspace, List.cons_append,
      List.dropWhile_cons_of_neg hb, ← List.cons_append, List.reverse_append,
      List.reverse_singleton, List.singleton_append, List.dropWhile_cons_of_pos hspace]
    exact hself

theorem splitPipes_append (cs : List Char) (hpipe : '|' ∉ cs) (hbackslash : '\\' ∉ cs) :
    ∀ cell rest, splitPipes false cell (cs ++ '|' :: rest)
      = (cell.reverse ++ cs) :: splitPipes false [] rest := by
  induction cs with
  | nil =>
      intro cell rest
      rw [List.nil_append, List.append_nil, splitPipes]
      rfl
  | cons c more ih =>
      intro cell rest
      rw [List.mem_cons, not_or] at hpipe hbackslash
      have hc : (c == '|') = false := beq_eq_false_iff_ne.mpr (Ne.symm hpipe.1)
      have hb : (c == '\\') = false := beq_eq_false_iff_ne.mpr (Ne.symm hbackslash.1)
      rw [List.cons_append, splitPipes, hc, hb, if_neg Bool.false_ne_true,
        ih hpipe.2 hbackslash.2, List.reverse_cons, List.append_assoc]
      rfl

theorem splitPipes_row (row : List (List Char)) (h : ∀ cs ∈ row, IsCell cs) :
    splitPipes false [] (row.flatMap fun cs => pad cs ++ ['|']) = row.map pad ++ [[]] := by
  induction row with
  | nil => rfl
  | cons cs rest ih =>
      have hcs := h cs List.mem_cons_self
      have hpipe : '|' ∉ pad cs := by
        unfold pad
        simp only [List.cons_append, List.mem_cons, List.mem_append, List.not_mem_nil, or_false,
          Char.reduceEq, false_or]
        exact hcs.pipe
      have hbackslash : '\\' ∉ pad cs := by
        unfold pad
        simp only [List.cons_append, List.mem_cons, List.mem_append, List.not_mem_nil, or_false,
          Char.reduceEq, false_or]
        exact hcs.backslash
      rw [List.flatMap_cons, List.append_assoc, List.singleton_append,
        splitPipes_append (pad cs) hpipe hbackslash,
        ih fun x hx => h x (List.mem_cons_of_mem cs hx)]
      rfl

/-- The cells of a written row, with the spaces around them. -/
theorem cells_rowChars (row : List (List Char)) (h : ∀ cs ∈ row, IsCell cs) :
    cells (rowChars row) = row.map pad := by
  unfold cells rowChars
  rw [splitPipes]
  simp only [beq_self_eq_true, if_true, Bool.false_eq_true, if_false, List.reverse_nil,
    splitPipes_row row h, dropEmptyFirst]
  unfold dropEmptyLast
  rw [List.getLast?_concat]
  exact List.dropLast_concat

theorem fitCells_eq_map (cs : List (List Char)) : fitCells cs.length cs = cs.map trim := by
  induction cs with
  | nil => rfl
  | cons c rest ih => rw [List.length_cons, fitCells, ih, List.map_cons]

theorem getLast?_rowChars (row : List (List Char)) : (rowChars row).getLast? = some '|' := by
  rcases List.eq_nil_or_concat row with rfl | ⟨init, last, rfl⟩
  · rfl
  · unfold rowChars
    rw [List.concat_eq_append, List.flatMap_append, List.flatMap_singleton, ← List.append_assoc,
      ← List.cons_append]
    exact List.getLast?_concat

/-- There are no spaces around a written row. -/
theorem trim_rowChars (row : List (List Char)) : trim (rowChars row) = rowChars row := by
  refine trim_eq_self _ (fun c hc => ?_) (fun c hc => ?_)
  · rw [← Option.some.inj (show some '|' = some c from hc)]
    decide
  · rw [getLast?_rowChars, Option.some.injEq] at hc
    rw [← hc]
    decide

/-- The cells of a written row come back as they were. -/
theorem fitCells_rowChars (row : List (List Char)) (h : ∀ cs ∈ row, IsCell cs) :
    fitCells row.length (cells (rowChars row)) = row := by
  rw [cells_rowChars row h, ← List.length_map pad, fitCells_eq_map, List.map_map]
  refine (List.map_congr_left fun cs hcs => ?_).trans (List.map_id row)
  exact trim_pad cs (h cs hcs).trimmed

theorem ofChars_rowChars (row : List (List Char)) :
    Line.ofChars (rowChars row) = ⟨[], rowChars row, 0, 0, false⟩ :=
  ofChars_cons '|' _ (by decide)

/-- A line that starts with a pipe is no block of its own. -/
theorem interruptsQuote_rowChars (row : List (List Char)) :
    interruptsQuote .document (Line.ofChars (rowChars row)) = false := by
  have hfence : opensFence .document (Line.ofChars (rowChars row)) = false := by
    unfold opensFence
    rw [ofChars_rowChars, rowChars, fence_ofBody?_of_ne '|' _ (by decide) (by decide)]
    rfl
  have hmarker : listMarker? .document (Line.ofChars (rowChars row)) = none := by
    rw [ofChars_rowChars]
    exact listMarker_ofBody?_of_ne '|' _ (by decide) (by decide)
  have hheading : opensHeading .document (Line.ofChars (rowChars row)) = false := by
    rw [ofChars_rowChars]
    rfl
  unfold interruptsQuote interruptsList
  rw [hfence, hmarker, hheading, ofChars_rowChars]
  rfl

/-- The rows of a written table go on to the first line that is empty. -/
theorem tableRows_eq (count : Nat) (rows : List (List (List Char))) (rest : List Line)
    (hcount : ∀ row ∈ rows, row.length = count) (hcells : ∀ row ∈ rows, ∀ cs ∈ row, IsCell cs) :
    tableRows .document count 0 (rows.map (Line.ofChars ∘ rowChars) ++ Line.ofChars [] :: rest)
      = (rows, Line.ofChars [] :: rest) := by
  induction rows with
  | nil =>
      rw [List.map_nil, List.nil_append, tableRows]
      simp only [show trim (Line.ofChars []).body = [] from rfl, List.isEmpty_nil, Bool.or_true,
        Bool.true_or, if_true]
  | cons row more ih =>
      have hrow := hcells row List.mem_cons_self
      have hlen := hcount row List.mem_cons_self
      have hnames : (cells (rowChars row)).length = count := by
        rw [cells_rowChars row hrow, List.length_map, hlen]
      have hbody : trim (Line.ofChars (rowChars row)).body = rowChars row := by
        rw [ofChars_rowChars]
        exact trim_rowChars row
      have hfit : fitCells count (cells (rowChars row)) = row := by
        rw [← hlen]
        exact fitCells_rowChars row hrow
      have hcode : Frame.document.isCode (Line.ofChars (rowChars row)) = false := by
        rw [ofChars_rowChars]
        rfl
      have hlacking : (0 : Int) + count - (cells (rowChars row)).length = 0 := by
        rw [hnames]
        omega
      rw [List.map_cons, List.cons_append, tableRows, Function.comp_apply, hbody, hlacking,
        excludes_ofChars, interruptsQuote_rowChars, hcode, hfit,
        ih (fun r hr => hcount r (List.mem_cons_of_mem row hr))
          (fun r hr => hcells r (List.mem_cons_of_mem row hr))]
      rfl

/-- The header of a written table has as many columns as the delimiter row. -/
theorem tableHeader?_eq (header : List (List Char)) (rest : List Line)
    (hcount : header.length = 5) (hcells : ∀ cs ∈ header, IsCell cs) :
    tableHeader? .document
        (Line.ofChars (rowChars header) :: Line.ofChars delimiterChars :: rest)
      = some (header, rest) := by
  have hline : isDelimiterLine (Line.ofChars delimiterChars).body = true := by decide
  have hcolumns : delimiterColumns? (Line.ofChars delimiterChars).body = some 5 := by decide
  have hcode : Frame.document.isCode (Line.ofChars delimiterChars) = false := by decide
  have hnames : (cells (rowChars header)).length = 5 := by
    rw [cells_rowChars header hcells, List.length_map, hcount]
  have hpipe : (rowChars header).contains '|' = true := rfl
  have hfit : fitCells 5 (cells (rowChars header)) = header := by
    rw [← hcount]
    exact fitCells_rowChars header hcells
  unfold tableHeader?
  simp only [excludes_ofChars, hline, hcolumns, hcode, ofChars_rowChars, trim_rowChars, hpipe,
    hnames, hfit]
  rfl

/-- A written table is read as it was written. -/
theorem block_table (readQuote readItem : Reader) (header : List (List Char))
    (rows : List (List (List Char))) (rest : List Line) (hcount : header.length = 5)
    (hcells : ∀ cs ∈ header, IsCell cs) (hcounts : ∀ row ∈ rows, row.length = 5)
    (hrows : ∀ row ∈ rows, ∀ cs ∈ row, IsCell cs) :
    block readQuote readItem .document (Line.ofChars (rowChars header))
        (Line.ofChars delimiterChars ::
          (rows.map (Line.ofChars ∘ rowChars) ++ Line.ofChars [] :: rest))
      = (some (.table header rows), Line.ofChars [] :: rest) := by
  have htable : table? .document (Line.ofChars (rowChars header) :: Line.ofChars delimiterChars ::
      (rows.map (Line.ofChars ∘ rowChars) ++ Line.ofChars [] :: rest))
      = some (.table header rows, Line.ofChars [] :: rest) := by
    unfold table?
    rw [tableHeader?_eq header _ hcount hcells, Option.map_some]
    dsimp only
    rw [hcount, tableRows_eq 5 rows rest hcounts hrows]
  unfold block
  rw [htable]

end OpcodeForge.Markdown
