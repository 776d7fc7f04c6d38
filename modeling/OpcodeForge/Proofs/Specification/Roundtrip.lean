import OpcodeForge.Proofs.Markdown.Tables
import OpcodeForge.Proofs.Specification.Blocks
import OpcodeForge.Specification.Section

/-!
# Writing and Reading a Document

A document that is written in the usual form specifies exactly what was written into
it. The code of an instruction may look like anything that a document can hold, such as
headings, tables and lists, since between its fences nothing is read. Only the mark of
a fence is excluded, and line feeds at the end, which are not kept.

Lines are written with the code as one of them, and a text of several lines takes as
many lines of the document. So the lines that are read are not the lines that were
written, and the two are related first (`linesOf_text`). Then the document is read from
its end to its beginning, since each block is read together with all lines after it.

## Main definitions

* `Draft`: What is written into a document.
* `Draft.text`: The document.
* `Draft.IsWritable`: What can be written so that it can be read.
* `Draft.nodes`, `Draft.blocks`: What the document is read as.
* `Draft.instruction`: The instruction that is written into it.

## Theorems

* `linesOf_text`: The lines of a written document.
* `reads_heading`, `reads_codeSection`, `reads_tableSection`: What each part is read as,
  whatever comes after it.
* `Draft.parse_text`: The nodes of a written document.
* `readBlocks_text`: The blocks of a written document.
* `extract_text`: A written document specifies what was written into it.
-/

namespace OpcodeForge.Specification

open Markdown

/-- What is written into a document. -/
structure Draft where
  title : String
  /-- The header of the table, if there is a table. -/
  header : List String
  rows : Option (List (List String))
  code : String
  additionalCodes : Option String

/-- A row of the table as it is written. -/
def rowText (row : List String) : String :=
  "|" ++ String.join (row.map fun cell => " " ++ cell ++ " |")

/-- The lines of a section with code in a fence. -/
def codeSection (heading code : String) : List String :=
  ["## " ++ heading, "", "```rust", code, "```"]

/-- The lines of the section with the table, and an empty one after them. -/
def tableSection (header : List String) (rows : List (List String)) : List String :=
  ["## Addresing Modes", "", rowText header, "|---|---|---|---|---|"] ++ rows.map rowText ++ [""]

namespace Draft

/-- The lines that are written. The code is one of them, of however many lines. -/
def lines (d : Draft) : List String :=
  ["# " ++ d.title, ""] ++ (d.rows.map (tableSection d.header)).getD []
    ++ codeSection "Implementation" d.code
    ++ (d.additionalCodes.map fun code => "" :: codeSection "Additional Codes" code).getD []

/-- The document. -/
def text (d : Draft) : String :=
  String.join (d.lines.map fun line => line ++ "\n")

end Draft

/-- A cell that can be written: one line, without the characters that end a cell, and
    without blanks around it. -/
structure IsField (s : String) : Prop where
  lineFeed : '\n' ∉ s.toList
  carriageReturn : '\r' ∉ s.toList
  zero : '\x00' ∉ s.toList
  cell : IsCell s.toList

/-- A row that can be written. -/
def IsRow (row : List String) : Prop :=
  row.length = 5 ∧ ∀ cell ∈ row, IsField cell

/-- Code that can be written: any lines without the mark of a fence, the last of which
    is not empty unless it is the only one. -/
structure IsCode (s : String) : Prop where
  carriageReturn : '\r' ∉ s.toList
  zero : '\x00' ∉ s.toList
  mark : ¬fenceMark <:+: s.toList
  lineFeed : s.toList.getLast? ≠ some '\n'

/-- What can be written so that it can be read. -/
structure Draft.IsWritable (d : Draft) : Prop where
  title : '\n' ∉ d.title.toList ∧ '\r' ∉ d.title.toList
  header : IsRow d.header
  rows : ∀ rows ∈ d.rows, ∀ row ∈ rows, IsRow row
  code : IsCode d.code
  additionalCodes : ∀ code ∈ d.additionalCodes, IsCode code

instance (s : String) : Decidable (IsField s) :=
  decidable_of_iff ('\n' ∉ s.toList ∧ '\r' ∉ s.toList ∧ '\x00' ∉ s.toList ∧ '|' ∉ s.toList ∧
      '\\' ∉ s.toList ∧ Text.trim s.toList = s.toList)
    ⟨fun h => ⟨h.1, h.2.1, h.2.2.1, h.2.2.2.1, h.2.2.2.2.1, h.2.2.2.2.2⟩,
      fun h => ⟨h.lineFeed, h.carriageReturn, h.zero, h.cell.pipe, h.cell.backslash,
        h.cell.trimmed⟩⟩

instance (row : List String) : Decidable (IsRow row) :=
  inferInstanceAs (Decidable (_ ∧ _))

instance (s : String) : Decidable (IsCode s) :=
  decidable_of_iff ('\r' ∉ s.toList ∧ '\x00' ∉ s.toList ∧ ¬fenceMark <:+: s.toList ∧
      s.toList.getLast? ≠ some '\n')
    ⟨fun h => ⟨h.1, h.2.1, h.2.2.1, h.2.2.2⟩,
      fun h => ⟨h.carriageReturn, h.zero, h.mark, h.lineFeed⟩⟩

instance (d : Draft) : Decidable d.IsWritable :=
  decidable_of_iff (('\n' ∉ d.title.toList ∧ '\r' ∉ d.title.toList) ∧ IsRow d.header ∧
      (∀ rows ∈ d.rows, ∀ row ∈ rows, IsRow row) ∧ IsCode d.code ∧
      ∀ code ∈ d.additionalCodes, IsCode code)
    ⟨fun h => ⟨h.1, h.2.1, h.2.2.1, h.2.2.2.1, h.2.2.2.2⟩,
      fun h => ⟨h.title, h.header, h.rows, h.code, h.additionalCodes⟩⟩

/-- The lines that a written line is read as. -/
def readLines (s : String) : List (List Char) :=
  (Text.pieces '\n' s.toList).map (List.map visible)

theorem toList_lines (lines : List String) :
    (String.join (lines.map fun line => line ++ "\n")).toList
      = (lines.flatMap fun line => Text.pieces '\n' line.toList).flatMap (· ++ ['\n']) := by
  rw [String.toList_join, List.flatMap_map, List.flatMap_assoc]
  refine congrArg (fun f => lines.flatMap f) (funext fun line => ?_)
  rw [Text.flatMap_pieces, String.toList_append]
  rfl

/-- The lines of a written document. -/
theorem linesOf_text (lines : List String) (h : ∀ line ∈ lines, '\r' ∉ line.toList) :
    linesOf (String.join (lines.map fun line => line ++ "\n")).toList
      = (lines.flatMap readLines).map Line.ofChars := by
  rw [toList_lines, linesOf_flatMap]
  · rw [List.map_flatMap, List.map_flatMap]
    refine congrArg (fun f => lines.flatMap f) (funext fun line => ?_)
    unfold readLines
    rw [List.map_map]
    rfl
  · intro part hpart
    rcases List.mem_flatMap.mp hpart with ⟨line, hline, hpiece⟩
    refine ⟨Text.not_mem_of_mem_pieces '\n' line.toList part hpiece, fun hr => h line hline ?_⟩
    exact (Text.infix_of_mem_pieces '\n' line.toList part hpiece).mem hr

theorem readLines_of_line (s : String) (hfeed : '\n' ∉ s.toList) (hzero : '\x00' ∉ s.toList) :
    readLines s = [s.toList] := by
  unfold readLines
  rw [Text.pieces_of_not_mem '\n' _ hfeed, List.map_singleton, map_visible_eq_self _ hzero]

theorem readLines_of_code (s : String) (h : '\x00' ∉ s.toList) :
    readLines s = Text.pieces '\n' s.toList := by
  unfold readLines
  refine (List.map_congr_left fun piece hpiece => ?_).trans (List.map_id _)
  exact map_visible_eq_self piece fun hzero =>
    h ((Text.infix_of_mem_pieces '\n' s.toList piece hpiece).mem hzero)

theorem toList_rowText (row : List String) :
    (rowText row).toList = rowChars (row.map String.toList) := by
  unfold rowText rowChars
  rw [String.toList_append, String.toList_join, List.flatMap_map, List.flatMap_map]
  refine congrArg (fun f => '|' :: row.flatMap f) (funext fun cell => ?_)
  unfold pad
  rw [String.toList_append, String.toList_append]
  simp only [show (" " : String).toList = [' '] from rfl,
    show (" |" : String).toList = [' ', '|'] from rfl, List.append_assoc, List.cons_append,
    List.nil_append]

/-- What is in a row is in one of its cells, or else a pipe or a space. -/
theorem not_mem_rowText (row : List String) (c : Char) (hcells : ∀ cell ∈ row, c ∉ cell.toList)
    (hpipe : c ≠ '|') (hspace : c ≠ ' ') : c ∉ (rowText row).toList := by
  intro hmem
  rw [toList_rowText] at hmem
  unfold rowChars pad at hmem
  simp only [List.mem_cons, List.mem_flatMap, List.mem_map, List.mem_append, List.not_mem_nil,
    or_false, hpipe, hspace, false_or, List.cons_append] at hmem
  rcases hmem with ⟨cs, ⟨cell, hcell, rfl⟩, hc⟩
  exact hcells cell hcell hc

theorem readLines_rowText (row : List String) (h : IsRow row) :
    readLines (rowText row) = [rowChars (row.map String.toList)] := by
  have hfeed : '\n' ∉ (rowText row).toList :=
    not_mem_rowText row '\n' (fun cell hc => (h.2 cell hc).lineFeed) (by decide) (by decide)
  have hzero : '\x00' ∉ (rowText row).toList :=
    not_mem_rowText row '\x00' (fun cell hc => (h.2 cell hc).zero) (by decide) (by decide)
  rw [readLines_of_line _ hfeed hzero, toList_rowText]

/-- The node of a heading. -/
def headingNode (depth : Nat) (text : List Char) : Node :=
  .inline (.heading depth) (trim (dropHeadingEnd (' ' :: text)))

/-- The nodes of a section with code. -/
def codeNodes (heading code : String) : List Node :=
  [headingNode sectionDepth heading.toList, .leaf .fence (code.toList ++ ['\n'])]

/-- A heading and the empty line below it, before other lines. -/
theorem reads_heading (depth : Nat) (text : List Char) (rest : List Line) (nodes : List Node)
    (hdepth : 1 ≤ depth ∧ depth ≤ 6) (h : Reads rest nodes) :
    Reads (Line.ofChars (List.replicate depth '#' ++ ' ' :: text) :: Line.ofChars [] :: rest)
      (headingNode depth text :: nodes) := by
  have hempty : (Line.ofChars (List.replicate depth '#' ++ ' ' :: text)).isEmpty = false := by
    rcases Nat.exists_eq_add_of_le' hdepth.1 with ⟨k, rfl⟩
    rw [List.replicate_succ, List.cons_append, ofChars_cons '#' _ (by decide)]
    rfl
  exact reads_block _ _ (Line.ofChars [] :: rest) (some (headingNode depth text)) nodes hempty rfl
    (fun readQuote readItem => block_heading readQuote readItem depth text _ hdepth rfl)
    (Nat.le_refl _) (reads_empty _ rest nodes rfl h)

/-- The lines that a section with code is read as. -/
theorem readLines_codeSection (heading code : String)
    (hheading : '\n' ∉ heading.toList ∧ '\x00' ∉ heading.toList) (hcode : '\x00' ∉ code.toList) :
    (codeSection heading code).flatMap readLines
      = (List.replicate 2 '#' ++ ' ' :: heading.toList) :: [] :: (fenceMark ++ "rust".toList)
        :: (Text.pieces '\n' code.toList ++ [fenceMark]) := by
  have htext : ("## " ++ heading).toList = List.replicate 2 '#' ++ ' ' :: heading.toList := by
    rw [String.toList_append]
    rfl
  have hfirst : readLines ("## " ++ heading)
      = [List.replicate 2 '#' ++ ' ' :: heading.toList] := by
    rw [← htext]
    refine readLines_of_line _ ?_ ?_
    · rw [htext]
      simp only [List.mem_append, List.mem_cons, hheading.1, List.mem_replicate, or_false]
      decide
    · rw [htext]
      simp only [List.mem_append, List.mem_cons, hheading.2, List.mem_replicate, or_false]
      decide
  unfold codeSection
  rw [List.flatMap_cons, List.flatMap_cons, List.flatMap_cons, List.flatMap_cons,
    List.flatMap_singleton, hfirst, readLines_of_code code hcode]
  rfl

/-- Code in a fence, before other lines. -/
theorem reads_fence (code : String) (rest : List Line) (nodes : List Node) (hcode : IsCode code)
    (h : Reads rest nodes) :
    Reads (Line.ofChars (fenceMark ++ "rust".toList) ::
        ((Text.pieces '\n' code.toList).map Line.ofChars ++ Line.ofChars fenceMark :: rest))
      (.leaf .fence (code.toList ++ ['\n']) :: nodes) := by
  have hmark : ∀ piece ∈ Text.pieces '\n' code.toList, ¬fenceMark <:+: piece :=
    fun piece hpiece hsub =>
      hcode.mark (hsub.trans (Text.infix_of_mem_pieces '\n' code.toList piece hpiece))
  refine reads_block _ _ rest (some (.leaf .fence (code.toList ++ ['\n']))) nodes rfl rfl
    (fun readQuote readItem => ?_) ?_ h
  · rw [block_fence readQuote readItem _ rest hmark, Text.flatMap_pieces]
  · rw [List.length_append, List.length_cons]
    omega

/-- A section with code, before other lines. -/
theorem reads_codeSection (heading code : String) (rest : List Line) (nodes : List Node)
    (hheading : '\n' ∉ heading.toList ∧ '\x00' ∉ heading.toList) (hcode : IsCode code)
    (h : Reads rest nodes) :
    Reads (((codeSection heading code).flatMap readLines).map Line.ofChars ++ rest)
      (codeNodes heading code ++ nodes) := by
  have hsection := reads_heading 2 heading.toList _ _ (by decide)
    (reads_fence code rest nodes hcode h)
  rw [readLines_codeSection heading code hheading hcode.zero]
  simp only [List.map_cons, List.map_append, List.map_nil, List.cons_append, List.append_assoc,
    List.nil_append]
  exact hsection

theorem readLines_rows (rows : List (List String)) (h : ∀ row ∈ rows, IsRow row) :
    (rows.map rowText).flatMap readLines
      = (rows.map (List.map String.toList)).map rowChars := by
  induction rows with
  | nil => rfl
  | cons row rest ih =>
      rw [List.map_cons, List.flatMap_cons, readLines_rowText row (h row List.mem_cons_self),
        ih fun r hr => h r (List.mem_cons_of_mem row hr)]
      rfl

theorem isCell_of_isRow (row : List String) (h : IsRow row) :
    (row.map String.toList).length = 5 ∧ ∀ cs ∈ row.map String.toList, IsCell cs := by
  refine ⟨(List.length_map _).trans h.1, fun cs hcs => ?_⟩
  rcases List.mem_map.mp hcs with ⟨cell, hcell, rfl⟩
  exact (h.2 cell hcell).cell

/-- The nodes of the section with the table. -/
def tableNodes (header : List String) (rows : List (List String)) : List Node :=
  [headingNode sectionDepth "Addresing Modes".toList,
    .table (header.map String.toList) (rows.map (List.map String.toList))]

/-- The lines that the section with the table is read as. -/
theorem readLines_tableSection (header : List String) (rows : List (List String))
    (hheader : IsRow header) (hrows : ∀ row ∈ rows, IsRow row) :
    (tableSection header rows).flatMap readLines
      = (List.replicate 2 '#' ++ ' ' :: "Addresing Modes".toList) :: []
        :: rowChars (header.map String.toList) :: delimiterChars
        :: ((rows.map (List.map String.toList)).map rowChars ++ [[]]) := by
  unfold tableSection
  rw [List.flatMap_append, List.flatMap_append, readLines_rows rows hrows, List.flatMap_cons,
    List.flatMap_cons, List.flatMap_cons, List.flatMap_singleton,
    readLines_rowText header hheader]
  rfl

/-- A table and the empty line below it, before other lines. -/
theorem reads_table (header : List String) (rows : List (List String)) (rest : List Line)
    (nodes : List Node) (hheader : IsRow header) (hrows : ∀ row ∈ rows, IsRow row)
    (h : Reads rest nodes) :
    Reads (Line.ofChars (rowChars (header.map String.toList)) ::
        Line.ofChars delimiterChars :: ((rows.map (List.map String.toList)).map
          (Line.ofChars ∘ rowChars) ++ Line.ofChars [] :: rest))
      (.table (header.map String.toList) (rows.map (List.map String.toList)) :: nodes) := by
  rcases isCell_of_isRow header hheader with ⟨hlen, hcells⟩
  have hall : ∀ row ∈ rows.map (List.map String.toList),
      row.length = 5 ∧ ∀ cs ∈ row, IsCell cs := by
    intro row hrow
    rcases List.mem_map.mp hrow with ⟨source, hsource, rfl⟩
    exact isCell_of_isRow source (hrows source hsource)
  refine reads_block _ _ (Line.ofChars [] :: rest) (some _) nodes rfl rfl
    (fun readQuote readItem => block_table readQuote readItem _ _ rest hlen hcells
      (fun row hrow => (hall row hrow).1) (fun row hrow => (hall row hrow).2)) ?_
    (reads_empty _ rest nodes rfl h)
  simp only [List.length_cons, List.length_append]
  omega

/-- The section with the table, before other lines. -/
theorem reads_tableSection (header : List String) (rows : List (List String)) (rest : List Line)
    (nodes : List Node) (hheader : IsRow header) (hrows : ∀ row ∈ rows, IsRow row)
    (h : Reads rest nodes) :
    Reads (((tableSection header rows).flatMap readLines).map Line.ofChars ++ rest)
      (tableNodes header rows ++ nodes) := by
  have hsection := reads_heading 2 "Addresing Modes".toList _ _ (by decide)
    (reads_table header rows rest nodes hheader hrows h)
  rw [readLines_tableSection header rows hheader hrows]
  simp only [List.map_cons, List.map_append, List.map_nil, List.map_map, List.cons_append,
    List.append_assoc, List.nil_append] at hsection ⊢
  exact hsection

theorem not_mem_codeSection (heading code : String) (hheading : '\r' ∉ ("## " ++ heading).toList)
    (hcode : IsCode code) : ∀ line ∈ codeSection heading code, '\r' ∉ line.toList := by
  intro line hline
  unfold codeSection at hline
  simp only [List.mem_cons, List.not_mem_nil, or_false] at hline
  rcases hline with rfl | rfl | rfl | rfl | rfl
  · exact hheading
  · decide
  · decide
  · exact hcode.carriageReturn
  · decide

theorem not_mem_tableSection (header : List String) (rows : List (List String))
    (hheader : IsRow header) (hrows : ∀ row ∈ rows, IsRow row) :
    ∀ line ∈ tableSection header rows, '\r' ∉ line.toList := by
  have hrow : ∀ row, IsRow row → '\r' ∉ (rowText row).toList :=
    fun row hrow => not_mem_rowText row '\r' (fun cell hc => (hrow.2 cell hc).carriageReturn)
      (by decide) (by decide)
  intro line hline
  unfold tableSection at hline
  simp only [List.mem_append, List.mem_cons, List.not_mem_nil, or_false, List.mem_map] at hline
  rcases hline with ((rfl | rfl | rfl | rfl) | ⟨row, hmem, rfl⟩) | rfl
  · decide
  · decide
  · exact hrow header hheader
  · decide
  · exact hrow row (hrows row hmem)
  · decide

namespace Draft

/-- What the document is read as. -/
def nodes (d : Draft) : List Node :=
  headingNode 1 (d.title.toList.map visible) ::
    ((d.rows.map (tableNodes d.header)).getD [] ++ codeNodes "Implementation" d.code
      ++ (d.additionalCodes.map (codeNodes "Additional Codes")).getD [])

theorem not_mem_lines (d : Draft) (h : d.IsWritable) : ∀ line ∈ d.lines, '\r' ∉ line.toList := by
  intro line hline
  unfold lines at hline
  simp only [List.mem_append] at hline
  rcases hline with ((hline | hline) | hline) | hline
  · rcases List.mem_cons.mp hline with rfl | hline
    · rw [String.toList_append, List.mem_append, not_or]
      exact ⟨by decide, h.title.2⟩
    · rw [List.mem_singleton.mp hline]
      decide
  · cases hrows : d.rows with
    | none =>
        rw [hrows] at hline
        exact absurd hline List.not_mem_nil
    | some rows =>
        rw [hrows, Option.map_some, Option.getD_some] at hline
        exact not_mem_tableSection d.header rows h.header (h.rows rows hrows) line hline
  · exact not_mem_codeSection _ d.code (by decide) h.code line hline
  · cases hextra : d.additionalCodes with
    | none =>
        rw [hextra] at hline
        exact absurd hline List.not_mem_nil
    | some code =>
        rw [hextra, Option.map_some, Option.getD_some, List.mem_cons] at hline
        rcases hline with rfl | hline
        · decide
        · exact not_mem_codeSection _ code (by decide) (h.additionalCodes code hextra) line hline

theorem not_mem_text (d : Draft) (h : d.IsWritable) : '\r' ∉ d.text.toList := by
  unfold text
  rw [String.toList_join, List.flatMap_map]
  intro hmem
  rcases List.mem_flatMap.mp hmem with ⟨line, hline, hr⟩
  rw [String.toList_append, List.mem_append] at hr
  rcases hr with hr | hr
  · exact d.not_mem_lines h line hline hr
  · exact absurd hr (by decide)

/-- The line of the title. A character of value zero in it is replaced. -/
theorem readLines_title (d : Draft) (h : '\n' ∉ d.title.toList) : readLines ("# " ++ d.title)
    = [List.replicate 1 '#' ++ ' ' :: d.title.toList.map visible] := by
  have htext : ("# " ++ d.title).toList = '#' :: ' ' :: d.title.toList := by
    rw [String.toList_append]
    rfl
  have hfeed : '\n' ∉ '#' :: ' ' :: d.title.toList := by
    simp only [List.mem_cons, h, or_false]
    decide
  unfold readLines
  rw [htext, Text.pieces_of_not_mem '\n' _ hfeed]
  rfl

/-- The nodes of a written document. -/
theorem parse_text (d : Draft) (h : d.IsWritable) : parse d.text.toList = d.nodes := by
  have hextra : Reads ((((d.additionalCodes.map fun code =>
      "" :: codeSection "Additional Codes" code).getD []).flatMap readLines).map Line.ofChars)
      ((d.additionalCodes.map (codeNodes "Additional Codes")).getD []) := by
    cases hcodes : d.additionalCodes with
    | none => exact reads_nil
    | some code =>
        have hsection := reads_codeSection "Additional Codes" code [] [] (by decide)
          (h.additionalCodes code hcodes) reads_nil
        rw [List.append_nil, List.append_nil] at hsection
        exact reads_empty (Line.ofChars []) _ _ rfl hsection
  have hcode := reads_codeSection "Implementation" d.code _ _ (by decide) h.code hextra
  have htable : ∀ rest nodes, Reads rest nodes →
      Reads ((((d.rows.map (tableSection d.header)).getD []).flatMap readLines).map Line.ofChars
        ++ rest) ((d.rows.map (tableNodes d.header)).getD [] ++ nodes) := by
    intro rest nodes hrest
    cases hrows : d.rows with
    | none => exact hrest
    | some rows =>
        exact reads_tableSection d.header rows rest nodes h.header (h.rows rows hrows) hrest
  have hall := reads_heading 1 (d.title.toList.map visible) _ _ (by decide) (htable _ _ hcode)
  refine parse_of_reads _ _ ?_
  unfold text
  rw [linesOf_text d.lines (not_mem_lines d h)]
  unfold lines nodes
  rw [List.append_assoc, List.append_assoc, List.flatMap_append, List.flatMap_append,
    List.flatMap_append, List.flatMap_cons, List.flatMap_singleton, d.readLines_title h.title.1]
  simp only [List.map_append, List.append_assoc] at hall ⊢
  exact hall

/-- The blocks of a written document. -/
def blocks (d : Draft) : List Block :=
  .heading 1 (trimmed (trim (dropHeadingEnd (' ' :: d.title.toList.map visible)))) ::
    ((d.rows.map fun rows =>
          [.heading sectionDepth "Addresing Modes", .table d.header rows]).getD []
      ++ [.heading sectionDepth "Implementation", .text .code d.code]
      ++ (d.additionalCodes.map fun code =>
          [.heading sectionDepth "Additional Codes", .text .code code]).getD [])

end Draft

/-- The line feed that ends the last line of a code is not part of it. -/
theorem dropLineFeeds_of_isCode (code : String) (h : IsCode code) :
    dropLineFeeds (code.toList ++ ['\n']) = code := by
  unfold dropLineFeeds Text.dropEndWhile
  rw [List.reverse_append, List.reverse_singleton, List.singleton_append,
    List.dropWhile_cons_of_pos (by decide)]
  have hstop : code.toList.reverse.dropWhile (· == '\n') = code.toList.reverse := by
    cases hcs : code.toList.reverse with
    | nil => rfl
    | cons c rest =>
        have hlast : code.toList.getLast? = some c := by
          rw [← List.head?_reverse, hcs, List.head?_cons]
        have hne : ¬(c == '\n') = true := by
          rw [beq_iff_eq]
          intro hc
          exact h.lineFeed (hlast.trans (congrArg some hc))
        exact List.dropWhile_cons_of_neg hne
  rw [hstop, List.reverse_reverse, String.ofList_toList]

theorem trimmed_of_isField (cell : String) (h : IsField cell) : trimmed cell.toList = cell := by
  unfold trimmed
  rw [h.cell.trimmed, String.ofList_toList]

theorem map_trimmed_of_isRow (row : List String) (h : IsRow row) :
    (row.map String.toList).map trimmed = row := by
  rw [List.map_map]
  refine (List.map_congr_left fun cell hcell => ?_).trans (List.map_id row)
  exact trimmed_of_isField cell (h.2 cell hcell)

theorem blockOfNode_codeNodes (heading code : String) (h : IsCode code)
    (hheading : trimmed (trim (dropHeadingEnd (' ' :: heading.toList))) = heading) :
    (codeNodes heading code).map blockOfNode
      = [.heading sectionDepth heading, .text .code code] := by
  have hblock : blockOfNode (headingNode sectionDepth heading.toList)
      = .heading sectionDepth (trimmed (trim (dropHeadingEnd (' ' :: heading.toList)))) := rfl
  unfold codeNodes
  rw [List.map_cons, List.map_singleton, hblock, hheading]
  change [_, Block.text .code (dropLineFeeds (code.toList ++ ['\n']))] = _
  rw [dropLineFeeds_of_isCode code h]

theorem blockOfNode_tableNodes (header : List String) (rows : List (List String))
    (hheader : IsRow header) (hrows : ∀ row ∈ rows, IsRow row) :
    (tableNodes header rows).map blockOfNode
      = [.heading sectionDepth "Addresing Modes", .table header rows] := by
  have hcells : (rows.map (List.map String.toList)).map (List.map trimmed) = rows := by
    rw [List.map_map]
    refine (List.map_congr_left fun row hrow => ?_).trans (List.map_id rows)
    exact map_trimmed_of_isRow row (hrows row hrow)
  have hblock : blockOfNode (headingNode sectionDepth "Addresing Modes".toList)
      = .heading sectionDepth "Addresing Modes" := by decide
  unfold tableNodes
  rw [List.map_cons, List.map_singleton, hblock, blockOfNode_table,
    map_trimmed_of_isRow header hheader, hcells]

/-- A written document is read block by block as it was written. -/
theorem readBlocks_text (d : Draft) (h : d.IsWritable) : readBlocks d.text = d.blocks := by
  have htable : ((d.rows.map (tableNodes d.header)).getD []).map blockOfNode
      = (d.rows.map fun rows =>
          [.heading sectionDepth "Addresing Modes", .table d.header rows]).getD [] := by
    cases hrows : d.rows with
    | none => rfl
    | some rows => exact blockOfNode_tableNodes d.header rows h.header (h.rows rows hrows)
  have hextra : ((d.additionalCodes.map (codeNodes "Additional Codes")).getD []).map blockOfNode
      = (d.additionalCodes.map fun code =>
          [.heading sectionDepth "Additional Codes", .text .code code]).getD [] := by
    cases hcodes : d.additionalCodes with
    | none => rfl
    | some code => exact blockOfNode_codeNodes _ code (h.additionalCodes code hcodes) (by decide)
  unfold readBlocks
  rw [d.parse_text h, blocksOf_tokens]
  unfold Draft.nodes Draft.blocks
  rw [List.map_cons, List.map_append, List.map_append, htable, hextra,
    blockOfNode_codeNodes _ d.code h.code (by decide)]
  rfl

/-- The instruction that is written into a document. -/
def Draft.instruction (d : Draft) (identifier : String) : Instruction :=
  ⟨identifier, d.code, d.rows.map (List.map Opcode.Row.mk), d.additionalCodes.getD ""⟩

/-- A written document specifies what was written into it. The only thing there can be
    a warning about is that there is no table. -/
theorem extract_text (identifier : String) (d : Draft) (h : d.IsWritable) :
    extract Headings.default identifier (readBlocks d.text)
      = .ok (d.instruction identifier,
          if d.rows.isSome then []
          else [noTableWarning identifier Headings.default.addressing]) := by
  rw [readBlocks_text d h]
  rcases d with ⟨title, header, rows, code, extra⟩
  cases rows with
  | none =>
      cases extra with
      | none => rfl
      | some more => rfl
  | some found =>
      cases extra with
      | none => rfl
      | some more => rfl

/-- A document whose code looks like another document. -/
def nestedDraft : Draft :=
  ⟨"LDA - Load Accumulator",
    ["Addressing Mode", "Assembly Language Form", "Opcode", "No. Bytes", "No. Cycles"],
    some [["Immediate", "LDA #Oper", "$A9", "2", "2"], ["Absolute", "", "AD", "3", "4 *"]],
    "# STA\n\n## Implementation\n\n  - let a = 1;\n\n| a | b |\n|---|---|\n\n> $self.a",
    some "## Additional Codes\n\n$self.z = 0;"⟩

/-- The code of the document comes back whole, with everything it looks like. -/
theorem extract_text_nestedDraft :
    nestedDraft.IsWritable ∧
      extract Headings.default "LDA" (readBlocks nestedDraft.text)
        = .ok (nestedDraft.instruction "LDA", []) := by
  have h : nestedDraft.IsWritable := by decide +kernel
  exact ⟨h, extract_text "LDA" nestedDraft h⟩

end OpcodeForge.Specification
