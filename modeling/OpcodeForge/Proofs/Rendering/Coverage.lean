import OpcodeForge.Proofs.Outcome
import OpcodeForge.Proofs.Rendering.Coherence
import OpcodeForge.Proofs.Specification.Roundtrip
import OpcodeForge.Proofs.Text.Encoding

/-!
# Coverage of the Dispatch

Once nothing was found wrong, a run renders the dispatch, and its arms are a matter of
the rows and the reference alone. A byte has an arm if some row declares it or if its row in
the reference is a placeholder, and it has one only. Arms come in the order of the bytes. An
arm is that of the row that declares the byte, and of the reference only where no row does
(`ArmOf`).

A run is a list of calls: one seeding, and then its instructions (`calls_addAll`). So what its
slots hold is known to be fit for rendering, and the arms are read off the slots in order.

One thing can still stop a run that is past its checks. A reference can have numbers of
cycles that are too long to be written, as nobody looks at them before. A declared number
cannot be too long, since rows that are put in have been read (`readable_of_addAll`).

## Main definitions

* `DeclaredAs`: A byte that some row declares, and how.
* `ArmOf`: The text of the arm of a byte.
* `Generator.Validated`: A run that has found nothing wrong.

## Theorems

* `firstDeclared?_rowsOf_iff`: Without faults, what the first row declares is what any does.
* `calls_addAll`: A run is a list of calls.
* `readable_of_addAll`: The rows of a run that reports nothing have been read.
* `Generator.Validated.get?_iff`: What the slots hold after a run without faults.
* `Generator.Validated.isWritable_iff`: When all that is in the slots can be written.
* `generate_covers`: What the dispatch of a run has for arms, and when there is one.
-/

namespace OpcodeForge

open Addressing (Registry defaultCapabilities)
open Opcode
open Specification

namespace Opcode

/-- Some row declares the entry, and with it the byte. An instruction without a table has
    no rows. -/
def DeclaredAs (registry : Registry) (is : List Instruction) (k : Fin opcodeSpace)
    (e : Entry) : Prop :=
  ∃ i ∈ is, ∃ rows, i.rows = some rows ∧ ∃ r ∈ rows,
    Declares registry i r e ∧ e.opcode = k.val

/-- The text of the arm of a byte. It is that of a row that declares the byte, or else that
    of the placeholder in the reference. -/
inductive ArmOf (registry : Registry) (is : List Instruction) (reference : List ReferenceRow)
    (k : Fin opcodeSpace) : String → Prop
  | declared (e : Entry) (h : DeclaredAs registry is k e) :
      ArmOf registry is reference k (Rendering.armText (Number.byteKey k) e.cycles.text e.mode
        (Text.lower e.instruction) e.additionalCodes)
  | default (r : ReferenceRow) (hnone : ∀ e, ¬DeclaredAs registry is k e)
      (hrow : reference[k.val]? = some r) (hname : isPlaceholder r.name = true) :
      ArmOf registry is reference k (Rendering.armText (Number.byteKey k) r.cycles.text r.mode
        (Text.lower r.name) "")

theorem mem_rowsOf_iff (is : List Instruction) (x : Instruction × Row) :
    x ∈ rowsOf is ↔ x.1 ∈ is ∧ ∃ rows, x.1.rows = some rows ∧ x.2 ∈ rows := by
  unfold rowsOf
  simp only [List.mem_flatMap, List.mem_map]
  constructor
  · rintro ⟨i, hi, r, hr, rfl⟩
    cases hrows : i.rows with
    | none =>
        rw [hrows] at hr
        exact absurd hr List.not_mem_nil
    | some rows =>
        rw [hrows] at hr
        exact ⟨hi, rows, rfl, hr⟩
  · rintro ⟨hi, rows, hrows, hr⟩
    exact ⟨x.1, hi, x.2, by rw [hrows]; exact hr, rfl⟩

theorem mem_entriesAt_iff (registry : Registry) (is : List Instruction) (k : Fin opcodeSpace)
    (e : Entry) : e ∈ entriesAt registry k.val (rowsOf is) ↔ DeclaredAs registry is k e := by
  unfold entriesAt DeclaredAs
  simp only [List.mem_filterMap, entryAt?_eq_some_iff]
  constructor
  · rintro ⟨x, hx, hdec, hk⟩
    rcases (mem_rowsOf_iff is x).mp hx with ⟨hi, rows, hrows, hr⟩
    exact ⟨x.1, hi, rows, hrows, x.2, hr, hdec, hk⟩
  · rintro ⟨i, hi, rows, hrows, r, hr, hdec, hk⟩
    exact ⟨(i, r), (mem_rowsOf_iff is (i, r)).mpr ⟨hi, rows, hrows, hr⟩, hdec, hk⟩

/-- Without faults only one row declares a byte, so it does not matter that it is the first. -/
theorem firstDeclared?_rowsOf_iff (registry : Registry) (is : List Instruction)
    (k : Fin opcodeSpace) (e : Entry) (h : rowFailures registry [] (rowsOf is) = []) :
    firstDeclared? registry k.val (rowsOf is) = some e ↔ DeclaredAs registry is k e := by
  have hle := length_entriesAt_le registry k.val (rowsOf is) h
  rw [← mem_entriesAt_iff]
  unfold firstDeclared?
  rcases hat : entriesAt registry k.val (rowsOf is) with _ | ⟨first, _ | ⟨second, rest⟩⟩
  · simp only [List.head?_nil, reduceCtorEq, List.not_mem_nil]
  · simp only [List.head?_cons, Option.some.injEq, List.mem_singleton, eq_comm]
  · rw [hat, List.length_cons, List.length_cons] at hle
    omega

namespace Builder

theorem exists_of_addAll_cons (i : Instruction) (rest : List Instruction) (b b' : Builder)
    (log : List Log.Line) (h : Generator.addAll b (i :: rest) = (b', log, .ok ())) :
    ∃ b₁ count log₁, b.add i = (b₁, .ok count) ∧
      Generator.addAll b₁ rest = (b', log₁, .ok ()) := by
  unfold Generator.addAll at h
  rcases hadd : b.add i with ⟨b₁, _ | count⟩
  · simp only [hadd, Prod.mk.injEq, reduceCtorEq, and_false] at h
  · rcases hall : Generator.addAll b₁ rest with ⟨b₂, log₁, result⟩
    simp only [hadd, hall, Prod.mk.injEq] at h
    exact ⟨b₁, count, log₁, rfl, by rw [hall, h.1, h.2.2]⟩

/-- A run is the calls that add its instructions, one after the other. -/
theorem calls_addAll (is : List Instruction) : ∀ (b b' : Builder) (log : List Log.Line),
    Generator.addAll b is = (b', log, .ok ()) → b.calls (is.map .add) = b' := by
  induction is with
  | nil =>
      intro b b' log h
      exact (Prod.mk.inj h).1
  | cons i rest ih =>
      intro b b' log h
      rcases exists_of_addAll_cons i rest b b' log h with ⟨b₁, count, log₁, hadd, hall⟩
      rw [List.map_cons]
      change (b.add i).1.calls (rest.map .add) = b'
      rw [hadd]
      exact ih b₁ b' log₁ hall

/-- Rows only ever add to what was wrong. -/
theorem failures_addRows (i : Instruction) (rows : List Row) (b : Builder) (added : Nat) :
    b.failures <+: (addRows i b added rows).1.failures := by
  refine addRows_induction (fun b' => b.failures <+: b'.failures) i ?_ ?_ rows b added
    (List.prefix_refl _)
  · intro b' r e b'' h _ hinsert
    rcases (insert_eq_ok_iff b' b'' e).mp hinsert with ⟨k, _, _, rfl⟩
    exact h
  · intro b' f h
    exact h.trans (List.prefix_append _ _)

theorem failures_addAll (is : List Instruction) : ∀ (b b' : Builder) (log : List Log.Line),
    Generator.addAll b is = (b', log, .ok ()) → b.failures <+: b'.failures := by
  induction is with
  | nil =>
      intro b b' log h
      rw [← (Prod.mk.inj h).1]
  | cons i rest ih =>
      intro b b' log h
      rcases exists_of_addAll_cons i rest b b' log h with ⟨b₁, count, log₁, hadd, hall⟩
      have hrows := failures_addRows i (i.rows.getD []) b 0
      unfold add at hadd
      rw [hadd] at hrows
      exact hrows.trans (ih b₁ b' log₁ hall)

theorem readable_of_addRows (i : Instruction) (rows : List Row) :
    ∀ (b b' : Builder) (added count : Nat), addRows i b added rows = (b', .ok count) →
      b'.failures = [] → ∀ r ∈ rows, r.HasReadableCycles := by
  induction rows with
  | nil => exact fun _ _ _ _ _ _ r hr => absurd hr List.not_mem_nil
  | cons r rest ih =>
      intro b b' added count h hnone
      unfold addRows at h
      cases hrow : b.addRow i r with
      | ok b₁ =>
          rw [hrow] at h
          rcases (addRow_eq_ok_iff b b₁ i r).mp hrow with ⟨e, hentry, _⟩
          have hr : r.HasReadableCycles := ((entryOf_eq_ok_iff b.registry i r e).mp hentry).2
          exact List.forall_mem_cons.mpr ⟨hr, ih b₁ b' (added + 1) count h hnone⟩
      | error stop =>
          rw [hrow] at h
          cases stop with
          | defect x => simp only [Prod.mk.injEq, reduceCtorEq, and_false] at h
          | failure f =>
              -- What is reported stays, so something was wrong in the end.
              have hprefix := failures_addRows i rest (b.report f) added
              simp only at h
              rw [h, hnone, List.prefix_nil] at hprefix
              exact absurd hprefix (by simp [report])

/-- The rows of a run that reports nothing have been read, so their cycles are not too
    long. -/
theorem readable_of_addAll (is : List Instruction) : ∀ (b b' : Builder) (log : List Log.Line),
    Generator.addAll b is = (b', log, .ok ()) → b'.failures = [] →
      ∀ x ∈ rowsOf is, x.2.HasReadableCycles := by
  induction is with
  | nil => exact fun _ _ _ _ _ x hx => absurd hx List.not_mem_nil
  | cons i rest ih =>
      intro b b' log h hnone x hx
      rcases exists_of_addAll_cons i rest b b' log h with ⟨b₁, count, log₁, hadd, hall⟩
      have hprefix := failures_addAll rest b₁ b' log₁ hall
      rw [hnone, List.prefix_nil] at hprefix
      have hcons : rowsOf (i :: rest) = (i.rows.getD []).map (i, ·) ++ rowsOf rest := rfl
      rw [hcons, List.mem_append] at hx
      rcases hx with hx | hx
      · rcases List.mem_map.mp hx with ⟨r, hr, rfl⟩
        exact readable_of_addRows i _ b b₁ 0 count hadd hprefix r hr
      · exact ih b₁ b' log₁ hall hnone x hx

end Builder

end Opcode

namespace Generator

/-- A run that has read its documents and put in its defaults and rows, and has found
    nothing wrong. What is left to do is to render. -/
structure Validated (g : Generator) (d : Disk) (reading : Reading) (b : Builder) : Prop where
  documents : ∃ lib ids, documents d g.settings.specDirectory = .ok (lib, ids) ∧
    readDocuments g.settings.headings lib d ids = (reading, .ok ())
  rows : ∃ start count log, (Builder.empty g.registry).seed g.reference = .ok (start, count) ∧
    addAll start reading.instructions = (b, log, .ok ())
  failures : reading.failures ++ b.failures = []

namespace Validated

variable {g : Generator} {d : Disk} {reading : Reading} {b : Builder}

theorem finish_eq (hv : Validated g d reading b) :
    (g.generate d).2 = finish g.registry reading b := by
  rcases hv.documents with ⟨lib, ids, hdocuments, hread⟩
  rcases hv.rows with ⟨start, count, log, hseed, hrun⟩
  exact (g.generate_of_documents d lib ids reading hdocuments hread).trans
    (assemble_eq_finish g reading start b count log hseed hrun)

theorem length_reference (hv : Validated g d reading b) : g.reference.length = opcodeSpace := by
  rcases hv.rows with ⟨start, count, log, hseed, _⟩
  exact ((Builder.seed_eq_ok_iff _ _ _).mp hseed).1

/-- The reference has no faults, and neither have the rows. -/
theorem holds (hv : Validated g d reading b) :
    ∃ start, (∀ k : Fin opcodeSpace,
        start.get? k = g.reference[k.val]?.bind (default? g.registry k)) ∧
      start.registry = g.registry ∧ Holds start (rowsOf reading.instructions) b ∧
      referenceFailures g.registry 0 g.reference = [] ∧
      rowFailures g.registry [] (rowsOf reading.instructions) = [] := by
  rcases hv.rows with ⟨start, count, log, hseed, hrun⟩
  have hnone : b.failures = [] := (List.append_eq_nil_iff.mp hv.failures).2
  rcases holds_fresh g.registry (some g.reference) reading.instructions
    (fun rows hrows => Option.some.inj hrows ▸ hv.length_reference)
    (Builder.readable_of_addAll _ start b log hrun hnone) with
    ⟨start', b', log', hfresh, hrun', hreg, hslots, hfail, h⟩
  rcases seed_of_fresh g.registry g.reference start' hfresh with ⟨count', hseed'⟩
  rw [hseed', Except.ok.injEq, Prod.mk.injEq] at hseed
  rw [hseed.1, hrun, Prod.mk.injEq] at hrun'
  rw [← hrun'.1] at h
  have hall := h.failures
  rw [hnone, hfail, hreg] at hall
  rcases List.append_eq_nil_iff.mp hall.symm with ⟨href, hrow⟩
  exact ⟨start', hslots, hreg, h, href, hrow⟩

/-- A slot holds what a row declares, or else the default of a placeholder. -/
theorem get?_iff (hv : Validated g d reading b) (k : Fin opcodeSpace) (e : Entry) :
    b.get? k = some e ↔ DeclaredAs g.registry reading.instructions k e ∨
      (∀ e', ¬DeclaredAs g.registry reading.instructions k e') ∧
        ∃ r, g.reference[k.val]? = some r ∧ isPlaceholder r.name = true ∧
          Entry.ofReference k r = e := by
  rcases hv.holds with ⟨start, hslots, hreg, h, href, hrow⟩
  have hmodes := (referenceFailures_eq_nil_iff g.registry g.reference 0).mp href
  have hdefault : start.get? k = some e ↔ ∃ r, g.reference[k.val]? = some r ∧
      isPlaceholder r.name = true ∧ Entry.ofReference k r = e := by
    rw [hslots k, Option.bind_eq_some_iff]
    unfold default? Builder.seeds
    refine exists_congr fun r => and_congr_right fun hr => ?_
    cases hname : isPlaceholder r.name with
    | false => simp
    | true => simp [hmodes r (List.mem_of_getElem? hr) hname]
  have hdeclared := fun e' => firstDeclared?_rowsOf_iff g.registry reading.instructions k e' hrow
  have hnone : firstDeclared? g.registry k.val (rowsOf reading.instructions) = none ↔
      ∀ e', ¬DeclaredAs g.registry reading.instructions k e' := by
    rw [Option.eq_none_iff_forall_ne_some]
    exact forall_congr' fun e' => not_congr (hdeclared e')
  rw [h.slots k, hreg, Option.or_eq_some_iff, hdeclared, hnone, hdefault]

/-- A slot is filled if a row declares its byte or the row of the reference is a
    placeholder. -/
theorem mem_filled_iff (hv : Validated g d reading b) (k : Fin opcodeSpace) :
    k ∈ b.filled ↔ (∃ e, DeclaredAs g.registry reading.instructions k e) ∨
      ∃ r, g.reference[k.val]? = some r ∧ isPlaceholder r.name = true := by
  rw [Builder.mem_filled_iff]
  constructor
  · rintro ⟨e, he⟩
    rcases (hv.get?_iff k e).mp he with hdec | ⟨_, r, hrow, hname, _⟩
    · exact Or.inl ⟨e, hdec⟩
    · exact Or.inr ⟨r, hrow, hname⟩
  · rintro (⟨e, hdec⟩ | ⟨r, hrow, hname⟩)
    · exact ⟨e, (hv.get?_iff k e).mpr (Or.inl hdec)⟩
    · by_cases hdec : ∃ e, DeclaredAs g.registry reading.instructions k e
      · rcases hdec with ⟨e, he⟩
        exact ⟨e, (hv.get?_iff k e).mpr (Or.inl he)⟩
      · exact ⟨_, (hv.get?_iff k _).mpr (Or.inr ⟨not_exists.mp hdec, r, hrow, hname, rfl⟩)⟩

theorem renders (hv : Validated g d reading b) (hr : g.registry.Coherent) :
    Builder.Renders g.registry b := by
  rcases hv.rows with ⟨start, count, log, hseed, hrun⟩
  have hstart : (Builder.empty g.registry).call (.seed g.reference) = start := by
    simp only [Builder.call, hseed]
  rw [← Builder.calls_addAll _ start b log hrun, ← hstart]
  refine Builder.renders_calls g.registry hr _ ?_ _
    (Builder.renders_seed _ _ _ hv.length_reference (Builder.renders_empty _))
  intro c hc
  rcases List.mem_map.mp hc with ⟨i, _, rfl⟩
  trivial

/-- Only a default that is still there can have cycles without a text. -/
theorem isWritable_iff (hv : Validated g d reading b) :
    b.entries.all (·.cycles.isWritable) = true ↔
      ∀ (k : Fin opcodeSpace) r, g.reference[k.val]? = some r → isPlaceholder r.name = true →
        (∀ e, ¬DeclaredAs g.registry reading.instructions k e) → r.cycles.isWritable = true := by
  rcases hv.rows with ⟨start, count, log, _, hrun⟩
  have hread := Builder.readable_of_addAll _ start b log hrun
    (List.append_eq_nil_iff.mp hv.failures).2
  rw [List.all_eq_true]
  constructor
  · intro hall k r hr hname hnone
    refine hall (.ofReference k r) ((b.mem_entries_iff _).mpr ⟨k, ?_⟩)
    exact (hv.get?_iff k _).mpr (Or.inr ⟨hnone, r, hr, hname, rfl⟩)
  · intro hall e he
    rcases (b.mem_entries_iff e).mp he with ⟨k, hk⟩
    rcases (hv.get?_iff k e).mp hk with ⟨i, hi, rows, hrows, r, hr, hdec, _⟩ | hdefault
    · exact isWritable_of_declares g.registry i r e hdec
        (hread (i, r) ((mem_rowsOf_iff _ (i, r)).mpr ⟨hi, rows, hrows, hr⟩))
    · rcases hdefault with ⟨hnone, r, hr, hname, rfl⟩
      exact hall k r hr hname hnone

theorem armOf (hv : Validated g d reading b) (hr : g.registry.Coherent) (k : Fin opcodeSpace)
    (e : Entry) (he : b.get? k = some e) :
    ArmOf g.registry reading.instructions g.reference k (Rendering.armOf e) := by
  unfold Rendering.armOf Entry.key
  rw [(hv.renders hr).placed k e he, Number.hexKey_byte]
  rcases (hv.get?_iff k e).mp he with hdec | ⟨hnone, r, hrow, hname, rfl⟩
  · exact .declared e hdec
  · exact .default r hnone hrow hname

theorem finish_cases (hv : Validated g d reading b) (hr : g.registry.Coherent) :
    (b.entries.all (·.cycles.isWritable) = true ∧ ∃ made, (g.generate d).2 = .ok made ∧
      made.dispatch = Rendering.dispatchHead
        ++ "\n".intercalate (b.entries.map Rendering.armOf) ++ Rendering.dispatchTail) ∨
    (b.entries.all (·.cycles.isWritable) = false ∧
      (g.generate d).2 = .error (.defect .numberTooLong)) := by
  rw [hv.finish_eq]
  unfold finish
  simp only [hv.failures, List.isEmpty_nil, if_true,
    Builder.dispatch_eq_of_renders g.registry b (hv.renders hr)]
  cases b.entries.all (·.cycles.isWritable) with
  | true => exact Or.inl ⟨rfl, _, rfl, rfl⟩
  | false => exact Or.inr ⟨rfl, rfl⟩

end Validated

/-- A run without faults renders its dispatch, unless a placeholder that no row replaces has
    a number of cycles that is too long to be written. The dispatch has one arm for each byte
    that a row declares or that is a placeholder, in the order of the bytes. -/
theorem generate_covers (g : Generator) (d₀ d : Disk) (settings : Settings)
    (reference : Option (List ReferenceRow)) (reading : Reading) (b : Builder)
    (hg : ofSettings d₀ settings Registry.default reference = .ok g)
    (hv : g.Validated d reading b) :
    ((∃ made, (g.generate d).2 = .ok made) ↔
      ∀ (k : Fin opcodeSpace) r, g.reference[k.val]? = some r → isPlaceholder r.name = true →
        (∀ e, ¬DeclaredAs g.registry reading.instructions k e) → r.cycles.isWritable = true) ∧
    ((∀ made, (g.generate d).2 ≠ .ok made) →
      (g.generate d).2 = .error (.defect .numberTooLong)) ∧
    ∀ made, (g.generate d).2 = .ok made → ∃ bytes arms,
      bytes.Pairwise (· < ·) ∧
      (∀ k, k ∈ bytes ↔ (∃ e, DeclaredAs g.registry reading.instructions k e) ∨
        ∃ r, g.reference[k.val]? = some r ∧ isPlaceholder r.name = true) ∧
      List.Forall₂ (ArmOf g.registry reading.instructions g.reference) bytes arms ∧
      made.dispatch
        = Rendering.dispatchHead ++ "\n".intercalate arms ++ Rendering.dispatchTail := by
  have hr := Registry.coherent_of_overrides settings.modes g.registry
    (ofSettings_eq_ok d₀ settings _ reference g hg).2
  rw [← hv.isWritable_iff]
  rcases hv.finish_cases hr with ⟨hall, made, hmade, hdispatch⟩ | ⟨hall, hlong⟩
  · refine ⟨⟨fun _ => hall, fun _ => ⟨made, hmade⟩⟩, fun hnot => absurd hmade (hnot made), ?_⟩
    intro made' hmade'
    rw [hmade, Except.ok.injEq] at hmade'
    rw [← hmade']
    refine ⟨b.filled, b.entries.map Rendering.armOf, b.pairwise_filled, hv.mem_filled_iff, ?_,
      hdispatch⟩
    rw [List.forall₂_map_right_iff]
    exact b.forall₂_filled.imp fun k e he => hv.armOf hr k e he
  · rw [hlong, hall]
    refine ⟨⟨?_, ?_⟩, fun _ => rfl, ?_⟩
    · rintro ⟨made, hmade⟩
      cases hmade
    · intro h
      cases h
    · intro made hmade
      cases hmade

/-- A document that declares one byte. -/
def loadDraft : Draft :=
  ⟨"LDA", ["Mode", "Form", "Opcode", "Bytes", "Cycles"],
    some [["Immediate", "LDA #", "$A9", "2", "2"]], "a", none⟩

/-- What it declares. -/
def loadInstruction : Instruction :=
  ⟨"LDA", "a", some [⟨["Immediate", "LDA #", "$A9", "2", "2"]⟩], ""⟩

/-- The entry of the byte. -/
def loadEntry : Entry :=
  ⟨0xA9, "imm", "LDA", .count 2, false, "", "LDA (Immediate)"⟩

/-- A directory with that document. -/
def loadDisk : Disk :=
  ⟨["w"], [(["w"], .directory), (["w", "docs"], .directory),
    (["w", "docs", "LDA.md"], .file (Text.encode loadDraft.text))]⟩

/-- A reference with a placeholder in its first row, and a real instruction in all others. -/
def withPlaceholder (cycles : Cycles) : List ReferenceRow :=
  ⟨"imp", "NOP", cycles⟩ :: List.replicate 255 ⟨"imp", "LDA", .count 2⟩

/-- A reference with one placeholder. -/
def onePlaceholder (cycles : Int) : List ReferenceRow :=
  ⟨"imp", "NOP", .count cycles⟩ :: List.replicate 255 ⟨"imp", "LDA", .count 2⟩

/-- A run over that directory with that reference. -/
def loadRun (cycles : Int) : Generator :=
  ⟨{ Settings.default with specDirectory := .text "docs" }, Registry.ofList defaultCapabilities,
    onePlaceholder cycles⟩

/-- A file with a written document in it specifies what was written. -/
theorem readDocument_draft (headings : Headings) (lib : Library) (d : Disk)
    (identifier : String) (draft : Draft) (found : Instruction × List Log.Line)
    (h : draft.IsWritable) (hread : d.read (lib.path identifier) = .ok (Text.encode draft.text))
    (hfound : extract headings identifier draft.blocks = .ok found) :
    readDocument headings lib d identifier = .ok found := by
  have hdecode : (Text.decode (Text.encode draft.text)).toOption = some draft.text.toList := by
    rw [Text.decode_encode]
    rfl
  have hblocks : documentBlocks draft.text.toList = draft.blocks := by
    rw [documentBlocks, Text.unixLines_eq_self _ (draft.not_mem_text h), String.ofList_toList,
      readBlocks_text draft h]
  exact readDocument_eq headings lib d identifier _ _ found hread hdecode (hblocks ▸ hfound)

theorem readDocument_loadDisk :
    readDocument Headings.default ⟨"docs"⟩ loadDisk "LDA" = .ok (loadInstruction, []) :=
  readDocument_draft _ _ _ _ loadDraft _ (by decide +kernel) rfl rfl

theorem identifiers_loadDisk : (Library.mk "docs").identifiers loadDisk = .ok ["LDA"] := by
  have hnames : loadDisk.names "docs" = .ok ["LDA.md"] := rfl
  have hfilter : ["LDA.md"].filter ((Library.mk "docs").isDocument loadDisk) = ["LDA.md"] := rfl
  have hfiles : (Library.mk "docs").fileNames loadDisk = ["LDA.md"] := by
    unfold Library.fileNames
    simp only [hnames, hfilter, List.mergeSort_singleton]
  unfold Library.identifiers
  rw [hfiles]
  rfl

theorem rowFailures_loadInstruction :
    rowFailures (Registry.ofList defaultCapabilities) [] (rowsOf [loadInstruction]) = [] := rfl

theorem length_withPlaceholder (cycles : Cycles) :
    (withPlaceholder cycles).length = opcodeSpace := by
  unfold withPlaceholder
  rw [List.length_cons, List.length_replicate]
  rfl

/-- The names of the reference have modes that the processor has. -/
theorem referenceFailures_withPlaceholder (cycles : Cycles) :
    referenceFailures (Registry.ofList defaultCapabilities) 0 (withPlaceholder cycles) = [] := by
  rw [referenceFailures_eq_nil_iff]
  intro r hr _
  rcases List.mem_cons.mp hr with rfl | hr
  · rfl
  · rw [List.eq_of_mem_replicate hr]
    rfl

theorem length_onePlaceholder (cycles : Int) :
    (onePlaceholder cycles).length = opcodeSpace :=
  length_withPlaceholder (.count cycles)

theorem referenceFailures_onePlaceholder (cycles : Int) :
    referenceFailures (Registry.ofList defaultCapabilities) 0 (onePlaceholder cycles) = [] :=
  referenceFailures_withPlaceholder (.count cycles)

theorem validated_loadRun (cycles : Int) :
    ∃ b, (loadRun cycles).Validated loadDisk ⟨[loadInstruction], [], []⟩ b := by
  have hreading : readDocuments Headings.default ⟨"docs"⟩ loadDisk ["LDA"]
      = (⟨[loadInstruction], [], []⟩, .ok ()) :=
    readDocuments_singleton _ _ _ _ _ _ readDocument_loadDisk
  rcases holds_fresh (loadRun cycles).registry (some (onePlaceholder cycles)) [loadInstruction]
    (fun rows hrows => Option.some.inj hrows ▸ length_onePlaceholder cycles) (by decide) with
    ⟨start, b, log, hfresh, hrun, hreg, _, hfail, h⟩
  rcases seed_of_fresh _ _ start hfresh with ⟨count, hseed⟩
  refine ⟨b, ⟨⟨"docs"⟩, ["LDA"], ?_, hreading⟩, ⟨start, count, log, hseed, hrun⟩, ?_⟩
  · change documents loadDisk (.text "docs") = _
    unfold documents
    simp only [identifiers_loadDisk]
  · rw [h.failures, hfail, hreg, Option.getD_some, List.nil_append]
    rw [show (loadRun cycles).registry = Registry.ofList defaultCapabilities from rfl,
      referenceFailures_onePlaceholder, List.nil_append]
    exact rowFailures_loadInstruction

theorem declaredAs_loadInstruction (k : Fin opcodeSpace) (e : Entry) :
    DeclaredAs (Registry.ofList defaultCapabilities) [loadInstruction] k e ↔
      (0xA9 : Int) = k.val ∧ loadEntry = e := by
  have hrows : rowsOf [loadInstruction]
      = [(loadInstruction, ⟨["Immediate", "LDA #", "$A9", "2", "2"]⟩)] := rfl
  have hat := entryAt?_of_ok (Registry.ofList defaultCapabilities) k.val
    (loadInstruction, ⟨["Immediate", "LDA #", "$A9", "2", "2"]⟩) loadEntry rfl
  rw [← mem_entriesAt_iff, hrows]
  unfold entriesAt
  rw [List.mem_filterMap]
  simp only [List.mem_singleton, exists_eq_left, hat]
  rw [Option.ite_none_right_eq_some, Option.some.injEq]
  rfl

theorem placeholder_withPlaceholder (cycles : Cycles) (k : Nat) (r : ReferenceRow)
    (hrow : (withPlaceholder cycles)[k]? = some r) (hname : isPlaceholder r.name = true) :
    k = 0 ∧ ⟨"imp", "NOP", cycles⟩ = r := by
  unfold withPlaceholder at hrow
  cases k with
  | zero => exact ⟨rfl, Option.some.inj hrow⟩
  | succ n =>
      rw [List.getElem?_cons_succ] at hrow
      rw [List.eq_of_mem_replicate (List.mem_of_getElem? hrow)] at hname
      exact absurd hname (by decide)

theorem placeholder_onePlaceholder (cycles : Int) (k : Nat) (r : ReferenceRow)
    (hrow : (onePlaceholder cycles)[k]? = some r) (hname : isPlaceholder r.name = true) :
    k = 0 ∧ ⟨"imp", "NOP", .count cycles⟩ = r :=
  placeholder_withPlaceholder (.count cycles) k r hrow hname

/-- The first number that is too long. -/
def tooLong : Int :=
  Int.ofNat (Nat.pow 10 Number.maxDigits)

theorem not_isWritable_tooLong : Number.isWritable tooLong = false := by
  have hself : ∀ n : Nat, ¬(Int.ofNat n).natAbs < n := fun n => Nat.lt_irrefl n
  exact decide_eq_false (hself _)

theorem arm_placeholder (cycles : Int) (arm : String)
    (h : ArmOf (loadRun cycles).registry [loadInstruction] (onePlaceholder cycles)
      ⟨0, by decide⟩ arm) :
    Rendering.armText "00" (Cycles.count cycles).text "imp" "nop" "" = arm := by
  have hkey : Number.byteKey ⟨0, by decide⟩ = "00" := rfl
  have hlower : Text.lower "NOP" = "nop" := rfl
  cases h with
  | declared e he => exact absurd ((declaredAs_loadInstruction _ e).mp he).1 (by decide)
  | default r _ hrow hname =>
      rw [← (placeholder_onePlaceholder cycles _ r hrow hname).2, hkey, hlower]

theorem arm_loadInstruction (cycles : Int) (arm : String)
    (h : ArmOf (loadRun cycles).registry [loadInstruction] (onePlaceholder cycles)
      ⟨0xA9, by decide⟩ arm) : Rendering.armText "a9" "2" "imm" "lda" "" = arm := by
  cases h with
  | declared e he =>
      rw [← ((declaredAs_loadInstruction _ e).mp he).2]
      rfl
  | default r hnone _ _ =>
      exact absurd ((declaredAs_loadInstruction _ _).mpr ⟨rfl, rfl⟩) (hnone loadEntry)

/-- The byte of the placeholder and the byte of the row have arms. With a number that is too
    long in the reference there is no dispatch at all. -/
theorem generate_covers_loadRun :
    (∃ made, ((loadRun 2).generate loadDisk).2 = .ok made ∧
      made.dispatch = Rendering.dispatchHead ++ "\n".intercalate [
          Rendering.armText "00" "2" "imp" "nop" "", Rendering.armText "a9" "2" "imm" "lda" ""]
        ++ Rendering.dispatchTail) ∧
    ((loadRun tooLong).generate loadDisk).2 = .error (.defect .numberTooLong) := by
  have hg : ∀ cycles, ofSettings loadDisk (loadRun cycles).settings Registry.default
      (some (onePlaceholder cycles)) = .ok (loadRun cycles) := fun _ => rfl
  constructor
  · rcases validated_loadRun 2 with ⟨b, hv⟩
    rcases generate_covers (loadRun 2) loadDisk loadDisk _ _ _ b (hg 2) hv with ⟨hok, _, hmade⟩
    have hwritable : (Cycles.count 2).isWritable = true := by decide +kernel
    rcases hok.mpr (fun k r hrow hname _ =>
      (placeholder_onePlaceholder 2 k r hrow hname).2 ▸ hwritable) with ⟨made, hmade'⟩
    rcases hmade made hmade' with ⟨bytes, arms, hascend, hmem, harms, hdispatch⟩
    have hperm : bytes.Perm [⟨0, by decide⟩, ⟨0xA9, by decide⟩] := by
      rw [List.perm_ext_iff_of_nodup (hascend.imp ne_of_lt) (by decide)]
      intro k
      rw [hmem k, List.mem_cons, List.mem_singleton]
      constructor
      · rintro (⟨e, he⟩ | ⟨r, hrow, hname⟩)
        · have hk := ((declaredAs_loadInstruction k e).mp he).1
          exact Or.inr (Fin.ext (by simp only; omega))
        · exact Or.inl (Fin.ext (placeholder_onePlaceholder 2 k r hrow hname).1)
      · rintro (rfl | rfl)
        · exact Or.inr ⟨_, rfl, by decide⟩
        · exact Or.inl ⟨loadEntry, (declaredAs_loadInstruction _ _).mpr ⟨rfl, rfl⟩⟩
    have hbytes := hperm.eq_of_pairwise (fun a b _ _ hab hba => absurd hab hba.asymm) hascend
      (by decide)
    refine ⟨made, hmade', ?_⟩
    rw [hbytes] at harms
    cases harms with
    | cons hfirst hrest =>
        cases hrest with
        | cons hsecond hnil =>
            cases hnil
            rw [hdispatch, ← arm_placeholder 2 _ hfirst, ← arm_loadInstruction 2 _ hsecond]
            rfl
  · rcases validated_loadRun tooLong with ⟨b, hv⟩
    rcases generate_covers (loadRun tooLong) loadDisk loadDisk _ _ _ b (hg _) hv with
      ⟨hok, hlong, _⟩
    refine hlong fun made hmade => ?_
    have hnone : ∀ e, ¬DeclaredAs (loadRun tooLong).registry [loadInstruction] ⟨0, by decide⟩ e :=
      fun e he => absurd ((declaredAs_loadInstruction _ e).mp he).1 (by decide)
    have hwritable := hok.mp ⟨made, hmade⟩ ⟨0, by decide⟩ _ rfl rfl hnone
    exact absurd hwritable (Bool.eq_false_iff.mp not_isWritable_tooLong)

end Generator

end OpcodeForge
