import OpcodeForge.Proofs.Generation
import OpcodeForge.Proofs.Opcode.Calls
import OpcodeForge.Proofs.Settings

/-!
# Documents That Stop a Run

A run that makes nothing either reports all that is wrong, or stops at a defect without a report.
Which of the two happens can be told from the documents, the reference and the flags alone.

Defects of the documents are always integers that are too long (`Generator.TooLong`). They are
looked for in this order: in the heading that a report has to name, in the cycles of the rows,
and in the cycles of the defaults that are left. The last are written only if nothing else is
wrong, so a fault hides them, but it does not hide the others.

Two further defects can occur in a builder or while rendering: an opcode without a slot, and an
entry that the dispatch has no mode for. Neither does, because an opcode that is read is a byte
(`insert_ne_defect`), and because the registry of a run is coherent.

## Main definitions

* `Generator.Ready`: A run that was set up from a configuration.
* `Generator.TooLong`: An integer keeps a run from a report.

## Theorems

* `Builder.addRow_eq_defect_iff`, `addRows_eq_defect_iff`, `addAll_eq_defect_iff`: A run of rows
  stops exactly at one that only its cycles keep from an entry.
* `Generator.documents_eq_defect_iff`, `Generator.documents_eq_failure_iff`: What can be wrong
  with the directory.
* `Generator.generate_of_overlong`, `Generator.generate_of_failures`, `Generator.generate_of_none`:
  The three ways in which a generation ends that has read its documents.
* `Generator.TooLong.generate_eq`, `Generator.generate_of_not_tooLong`: What decides between a defect
  and a report.
-/

namespace OpcodeForge

open Addressing (Registry)
open Opcode
open Specification

namespace Opcode

namespace Builder

/-- An opcode that is a byte has a slot. -/
theorem insert_ne_defect (b : Builder) (k : Fin opcodeSpace) (e : Entry) (hk : e.opcode = k.val)
    (x : Defect) : b.insert e ≠ .error (.defect x) := by
  unfold insert
  rw [hk, slotOf?_byte k]
  dsimp only
  cases b.get? k with
  | none => simp only [ne_eq, reduceCtorEq, not_false_eq_true]
  | some old =>
      dsimp only
      split
      · simp only [ne_eq, reduceCtorEq, not_false_eq_true]
      · simp only [ne_eq, Except.error.injEq, reduceCtorEq, not_false_eq_true]

theorem addRow_eq_defect_iff (b : Builder) (i : Instruction) (r : Row) (x : Defect) :
    b.addRow i r = .error (.defect x) ↔ x = .numberTooLong ∧ Overlong b.registry i r := by
  rw [← entryOf_eq_defect_iff]
  unfold addRow
  cases hentry : entryOf b.registry i r with
  | error stop => simp only [bind, Except.bind, Except.error.injEq]
  | ok e =>
      rcases (entryOf_eq_ok_iff b.registry i r e).mp hentry with ⟨hdec, -⟩
      rcases opcode_of_declares b.registry i r e hdec with ⟨k, hk⟩
      simp only [bind, Except.bind, b.insert_ne_defect k e hk x, reduceCtorEq]

theorem registry_addRows (i : Instruction) (rows : List Row) (b : Builder) (added : Nat) :
    (addRows i b added rows).1.registry = b.registry := by
  refine addRows_induction (fun b' => b'.registry = b.registry) i ?_ ?_ rows b added rfl
  · intro b' r e b'' h _ hinsert
    rcases (insert_eq_ok_iff b' b'' e).mp hinsert with ⟨k, -, -, rfl⟩
    exact h
  · exact fun _ _ h => h

/-- Rows are gone through up to the first one that cannot be reported, whatever else is wrong
    with others. -/
theorem addRows_eq_defect_iff (i : Instruction) (x : Defect) (rows : List Row) :
    ∀ (b : Builder) (added : Nat), (addRows i b added rows).2 = .error x ↔
      x = .numberTooLong ∧ ∃ r ∈ rows, Overlong b.registry i r := by
  induction rows with
  | nil =>
      intro b added
      simp only [addRows, reduceCtorEq, List.not_mem_nil, false_and, exists_false, and_false]
  | cons r rest ih =>
      intro b added
      have hrow := fun y => b.addRow_eq_defect_iff i r y
      simp only [List.exists_mem_cons_iff]
      unfold addRows
      cases hadd : b.addRow i r with
      | ok b' =>
          have hnot : ¬Overlong b.registry i r := fun hlong => absurd
            ((hrow _).mpr ⟨rfl, hlong⟩) (by simp only [hadd, reduceCtorEq, not_false_eq_true])
          rcases (addRow_eq_ok_iff b b' i r).mp hadd with ⟨e, -, hinsert⟩
          rcases (insert_eq_ok_iff b b' e).mp hinsert with ⟨k, -, -, rfl⟩
          simp only [hnot, false_or]
          -- The builder is another one now, but its registry is the same.
          exact ih (b.set k e) (added + 1)
      | error stop =>
          cases stop with
          | failure f =>
              have hnot : ¬Overlong b.registry i r := fun hlong => absurd
                ((hrow _).mpr ⟨rfl, hlong⟩) (by
                  simp only [hadd, Except.error.injEq, reduceCtorEq, not_false_eq_true])
              simp only [hnot, false_or]
              exact ih (b.report f) added
          | defect y =>
              rcases (hrow y).mp hadd with ⟨rfl, hlong⟩
              simp only [hlong, true_or, and_true, Except.error.injEq, eq_comm]

end Builder

theorem addAll_eq_defect_iff (x : Defect) (is : List Instruction) :
    ∀ b : Builder, (Generator.addAll b is).2.2 = .error x ↔
      x = .numberTooLong ∧ ∃ y ∈ rowsOf is, Overlong b.registry y.1 y.2 := by
  induction is with
  | nil =>
      intro b
      simp only [Generator.addAll, rowsOf, List.flatMap_nil, reduceCtorEq, List.not_mem_nil,
        false_and, exists_false, and_false]
  | cons i rest ih =>
      intro b
      have hcons : rowsOf (i :: rest) = (i.rows.getD []).map (i, ·) ++ rowsOf rest := rfl
      have hrows := fun y => Builder.addRows_eq_defect_iff i y (i.rows.getD []) b 0
      have hreg := Builder.registry_addRows i (i.rows.getD []) b 0
      have hsplit : (∃ y ∈ rowsOf (i :: rest), Overlong b.registry y.1 y.2) ↔
          (∃ r ∈ i.rows.getD [], Overlong b.registry i r) ∨
            ∃ y ∈ rowsOf rest, Overlong b.registry y.1 y.2 := by
        rw [hcons]
        simp only [List.mem_append, or_and_right, exists_or, List.mem_map]
        refine or_congr_left ⟨?_, ?_⟩
        · rintro ⟨_, ⟨r, hr, rfl⟩, hlong⟩
          exact ⟨r, hr, hlong⟩
        · rintro ⟨r, hr, hlong⟩
          exact ⟨(i, r), ⟨r, hr, rfl⟩, hlong⟩
      rw [hsplit]
      unfold Generator.addAll Builder.add
      rcases hadd : Builder.addRows i b 0 (i.rows.getD []) with ⟨b', y | count⟩
      · rcases (hrows y).mp (by rw [hadd]) with ⟨rfl, hlong⟩
        simp only [hlong, true_or, and_true, Except.error.injEq, eq_comm]
      · have hnot : ¬∃ r ∈ i.rows.getD [], Overlong b.registry i r := fun hlong => absurd
          ((hrows _).mpr ⟨rfl, hlong⟩) (by simp only [hadd, reduceCtorEq, not_false_eq_true])
        rw [hadd] at hreg
        rw [← show b'.registry = b.registry from hreg] at hnot ⊢
        simp only [hnot, false_or]
        exact ih b'

end Opcode

namespace Generator

/-- A run that was set up from a configuration. -/
structure Ready (g : Generator) : Prop where
  coherent : g.registry.Coherent
  length : g.reference.length = opcodeSpace
  paths : ∀ v ∈ g.settings.paths, v.IsPath

theorem Ready.isPath_specDirectory {g : Generator} (hg : g.Ready) :
    g.settings.specDirectory.IsPath :=
  ((g.settings.forall_mem_paths_iff _).mp hg.paths).1

theorem Ready.isPath_instructionsPath {g : Generator} (hg : g.Ready) :
    g.settings.instructionsPath.IsPath :=
  ((g.settings.forall_mem_paths_iff _).mp hg.paths).2.1

theorem Ready.isPath_dispatchPath {g : Generator} (hg : g.Ready) :
    g.settings.dispatchPath.IsPath :=
  ((g.settings.forall_mem_paths_iff _).mp hg.paths).2.2.1

/-- A directory of documents that is named in bytes and is not empty. -/
def Crowded (d : Disk) (v : Value) : Prop :=
  (∃ bs, v = .bytes bs) ∧ d.isDirectory (v.diskPath?.getD "") = true ∧
    d.names (v.diskPath?.getD "") ≠ .ok []

theorem documents_eq_failure_iff (d : Disk) (v : Value) (hv : v.IsPath) (f : Failure) :
    documents d v = .error (.failure f) ↔
      f = .specDirectory v.plain ∧ d.isDirectory (v.diskPath?.getD "") = false := by
  rcases hv with ⟨s, rfl⟩ | ⟨bs, rfl, -⟩
  · change _ ↔ f = .specDirectory s ∧ d.isDirectory s = false
    unfold documents Library.identifiers
    dsimp only
    cases d.isDirectory s with
    | true => simp only [if_true, reduceCtorEq, Bool.true_eq_false, and_false]
    | false =>
        simp only [Bool.false_eq_true, if_false, and_true]
        exact error_failure_eq_iff f (.specDirectory s)
  · unfold documents
    dsimp only
    cases d.isDirectory ((Value.bytes bs).diskPath?.getD "") with
    | true =>
        simp only [Bool.not_true, Bool.false_eq_true, if_false, Bool.true_eq_false, and_false,
          iff_false]
        split <;> simp
    | false =>
        simp only [Bool.not_false, if_true, and_true]
        exact error_failure_eq_iff f _

theorem documents_eq_defect_iff (d : Disk) (v : Value) (hv : v.IsPath) (x : Defect) :
    documents d v = .error (.defect x) ↔ x = .notAPath ∧ Crowded d v := by
  unfold Crowded
  rcases hv with ⟨s, rfl⟩ | ⟨bs, rfl, -⟩
  · have hno : ¬∃ bs, Value.text s = .bytes bs := fun ⟨_, h⟩ => by cases h
    unfold documents
    simp only [hno, false_and, and_false, iff_false]
    cases (Library.mk s).identifiers d <;> simp
  · unfold documents
    simp only [Value.bytes.injEq, exists_eq', true_and]
    cases d.isDirectory ((Value.bytes bs).diskPath?.getD "") with
    | false => simp
    | true =>
        simp only [Bool.not_true, Bool.false_eq_true, if_false, true_and]
        split
        · rename_i hnames
          simp [hnames]
        · rename_i hnames
          have hne : d.names ((Value.bytes bs).diskPath?.getD "") ≠ .ok [] := hnames
          simp only [ne_eq, hne, not_false_eq_true, and_true]
          exact error_defect_eq_iff x .notAPath

/-- An integer keeps a run from a report, or from its outputs. -/
inductive TooLong (g : Generator) (lib : Library) (d : Disk) (ids : List String) : Prop
  /-- The report that a section is missing would name its heading. -/
  | heading (id : String) (bytes : List UInt8) (cs : List Char) (hid : id ∈ ids)
      (hread : d.read (lib.path id) = .ok bytes) (hdecode : Text.decode bytes = .ok cs)
      (hsection : ¬HasImplementation g.settings.headings (documentBlocks cs))
      (hlong : g.settings.headings.implementation.isWritable = false)
  | cycles (i : Instruction) (r : Row)
      (hrow : (i, r) ∈ rowsOf (specified g.settings.headings lib d ids))
      (hlong : Overlong g.registry i r)
  /-- Cycles of the reference are only written, and that comes last. -/
  | standing (k : Fin opcodeSpace) (r : ReferenceRow) (hnone : g.failures lib d ids = [])
      (hstanding : Standing g.registry (specified g.settings.headings lib d ids) g.reference k r)
      (hlong : r.cycles.isWritable = false)

section Documents

variable {g : Generator} {d : Disk} {lib : Library} {ids : List String}

/-- Unless a row stops it, a run goes through all rows and collects all faults. -/
theorem exists_finish (hg : g.Ready) (reading : Reading)
    (hread : ∀ y ∈ rowsOf reading.instructions, ¬Overlong g.registry y.1 y.2) :
    ∃ start b count log, (Builder.empty g.registry).seed g.reference = .ok (start, count) ∧
      addAll start reading.instructions = (b, log, .ok ()) ∧
      reading.failures ++ b.failures = reading.failures ++
        (referenceFailures g.registry 0 g.reference ++
          rowFailures g.registry [] (rowsOf reading.instructions)) ∧
      (g.assemble reading).2 = finish g.registry reading b := by
  rcases holds_of_not_overlong g.registry (some g.reference) reading.instructions
    (fun rows hrows => Option.some.inj hrows ▸ hg.length) hread with
    ⟨start, b, log, hfresh, hrun, hreg, -, hfail, h⟩
  rcases seed_of_fresh g.registry g.reference start hfresh with ⟨count, hseed⟩
  refine ⟨start, b, count, log, hseed, hrun, ?_,
    assemble_eq_finish g reading start b count log hseed hrun⟩
  rw [h.failures, hreg, hfail]
  rfl

/-- A row whose cycles are too many digits ends a generation, whatever else is wrong. -/
theorem generate_of_overlong (hg : g.Ready)
    (h : documents d g.settings.specDirectory = .ok (lib, ids))
    (hnamed : ∀ id ∈ ids, ¬Unnameable g.settings.headings lib d id)
    (hlong : ∃ y ∈ rowsOf (specified g.settings.headings lib d ids),
      Overlong g.registry y.1 y.2) :
    (g.generate d).2 = .error (.defect .numberTooLong) := by
  rcases readDocuments_eq g.settings.headings lib d ids hnamed with ⟨told, hreading⟩
  rcases exists_fresh_eq_ok g.registry (some g.reference)
    (fun rows hrows => Option.some.inj hrows ▸ hg.length) with ⟨start, hfresh, hreg, -, -⟩
  rcases seed_of_fresh g.registry g.reference start hfresh with ⟨count, hseed⟩
  have hadd := (addAll_eq_defect_iff .numberTooLong (specified g.settings.headings lib d ids)
    start).mpr ⟨rfl, hreg ▸ hlong⟩
  rw [g.generate_of_documents d lib ids _ h hreading]
  unfold assemble
  rcases hall : addAll start (specified g.settings.headings lib d ids) with ⟨b, log, added⟩
  rw [hall] at hadd
  simp only [hseed, hall, show added = .error .numberTooLong from hadd]

theorem generate_of_failures (hg : g.Ready)
    (h : documents d g.settings.specDirectory = .ok (lib, ids))
    (hnamed : ∀ id ∈ ids, ¬Unnameable g.settings.headings lib d id)
    (hread : ∀ y ∈ rowsOf (specified g.settings.headings lib d ids),
      ¬Overlong g.registry y.1 y.2) (hne : g.failures lib d ids ≠ []) :
    (g.generate d).2 = .error (.failure (.generation (g.failures lib d ids))) := by
  rcases readDocuments_eq g.settings.headings lib d ids hnamed with ⟨told, hreading⟩
  rcases exists_finish hg ⟨specified g.settings.headings lib d ids,
    documentFailures g.settings.headings lib d ids, told⟩ hread with
    ⟨start, b, count, log, -, -, hall, hfinish⟩
  have hfailures : documentFailures g.settings.headings lib d ids ++ b.failures =
      g.failures lib d ids := hall
  rw [g.generate_of_documents d lib ids _ h hreading, hfinish]
  unfold finish
  simp only [hfailures, List.isEmpty_iff, hne, if_false]

/-- Without faults it depends on the defaults that are left whether a generation succeeds. -/
theorem generate_of_none (hg : g.Ready)
    (h : documents d g.settings.specDirectory = .ok (lib, ids))
    (hnamed : ∀ id ∈ ids, ¬Unnameable g.settings.headings lib d id)
    (hread : ∀ y ∈ rowsOf (specified g.settings.headings lib d ids),
      ¬Overlong g.registry y.1 y.2) (hnone : g.failures lib d ids = []) :
    ((∃ k r, Standing g.registry (specified g.settings.headings lib d ids) g.reference k r ∧
      r.cycles.isWritable = false) ∧ (g.generate d).2 = .error (.defect .numberTooLong)) ∨
    (¬∃ k r, Standing g.registry (specified g.settings.headings lib d ids) g.reference k r ∧
      r.cycles.isWritable = false) ∧ ∃ made, (g.generate d).2 = .ok made := by
  rcases readDocuments_eq g.settings.headings lib d ids hnamed with ⟨told, hreading⟩
  rcases exists_finish hg ⟨specified g.settings.headings lib d ids,
    documentFailures g.settings.headings lib d ids, told⟩ hread with
    ⟨start, b, count, log, hseed, hrun, hall, -⟩
  have hv : g.Validated d _ b := ⟨⟨lib, ids, h, hreading⟩, ⟨start, count, log, hseed, hrun⟩,
    hall.trans hnone⟩
  -- The dispatch writes the cycles of all entries, and those of rows are short.
  have hwritable := hv.isWritable_iff
  rcases hv.finish_cases hg.coherent with ⟨htrue, made, hmade, -⟩ | ⟨hfalse, hlong⟩
  · refine Or.inr ⟨?_, made, hmade⟩
    rintro ⟨k, r, hstanding, hr⟩
    rw [hwritable.mp htrue k r hstanding.row hstanding.placeholder hstanding.undeclared] at hr
    exact absurd hr (by decide)
  · refine Or.inl ⟨?_, hlong⟩
    by_contra hno
    refine absurd (hwritable.mpr fun k r hrow hname hundeclared => ?_)
      (Bool.eq_false_iff.mp hfalse)
    by_contra hr
    exact hno ⟨k, r, ⟨hrow, hname, hundeclared⟩, Bool.eq_false_iff.mpr hr⟩

/-- An integer that is too long ends a generation without a report. -/
theorem TooLong.generate_eq (hg : g.Ready)
    (h : documents d g.settings.specDirectory = .ok (lib, ids)) (hlong : g.TooLong lib d ids) :
    (g.generate d).2 = .error (.defect .numberTooLong) := by
  -- Documents come first and rows second: if one of them stops the run, then neither faults nor
  -- defaults are looked at.
  by_cases hstops : ∃ id ∈ ids, Unnameable g.settings.headings lib d id
  · exact g.generate_of_stop d lib ids _ h
      (readDocuments_stops g.settings.headings lib d ids hstops)
  · have hnamed : ∀ id ∈ ids, ¬Unnameable g.settings.headings lib d id :=
      fun id hid hunnameable => hstops ⟨id, hid, hunnameable⟩
    by_cases hrow : ∃ y ∈ rowsOf (specified g.settings.headings lib d ids),
        Overlong g.registry y.1 y.2
    · exact generate_of_overlong hg h hnamed hrow
    · have hread : ∀ y ∈ rowsOf (specified g.settings.headings lib d ids),
          ¬Overlong g.registry y.1 y.2 := fun y hy hbad => hrow ⟨y, hy, hbad⟩
      cases hlong with
      | heading id bytes cs hid hbytes hdecode hsection hheading =>
          exact absurd ⟨hheading, bytes, cs, hbytes, hdecode, hsection⟩ (hnamed id hid)
      | cycles i r hmem hbad => exact absurd ⟨(i, r), hmem, hbad⟩ hrow
      | standing k r hnone hstanding hcycles =>
          rcases generate_of_none hg h hnamed hread hnone with ⟨-, hstop⟩ | ⟨hno, -⟩
          · exact hstop
          · exact absurd ⟨k, r, hstanding, hcycles⟩ hno

/-- If no integer is too long, then a generation reports all faults or has none. -/
theorem generate_of_not_tooLong (hg : g.Ready)
    (h : documents d g.settings.specDirectory = .ok (lib, ids)) (hlong : ¬g.TooLong lib d ids) :
    (g.failures lib d ids ≠ [] ∧
      (g.generate d).2 = .error (.failure (.generation (g.failures lib d ids)))) ∨
    g.failures lib d ids = [] ∧ ∃ made, (g.generate d).2 = .ok made := by
  have hnamed : ∀ id ∈ ids, ¬Unnameable g.settings.headings lib d id := by
    rintro id hid ⟨hheading, bytes, cs, hbytes, hdecode, hsection⟩
    exact hlong (.heading id bytes cs hid hbytes hdecode hsection hheading)
  have hread : ∀ y ∈ rowsOf (specified g.settings.headings lib d ids),
      ¬Overlong g.registry y.1 y.2 := fun y hy hbad => hlong (.cycles y.1 y.2 hy hbad)
  by_cases hnone : g.failures lib d ids = []
  · rcases generate_of_none hg h hnamed hread hnone with ⟨⟨k, r, hstanding, hcycles⟩, -⟩ | ⟨-, hmade⟩
    · exact absurd (.standing k r hnone hstanding hcycles) hlong
    · exact Or.inr ⟨hnone, hmade⟩
  · exact Or.inl ⟨hnone, generate_of_failures hg h hnamed hread hnone⟩

end Documents

end Generator

end OpcodeForge
