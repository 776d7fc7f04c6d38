import OpcodeForge.Proofs.Rendering.Coverage

/-!
# What a Run Has Made

A run that makes its outputs went through all of its steps: it has found nothing wrong, and
then its table was rendered. What it has made is said by the instructions and the slots that
it ended with (`rendered`), whatever its registry. In particular the table lists the slots in
order, and the arms are those of its entries in the same order.

Whether nothing is wrong can be told without a builder. It is a matter of the documents, of
the reference and of the rows (`exists_validated_iff`), and the registry counts in the last two
only.

## Main definitions

* `Opcode.Standing`: A placeholder that no row replaces.
* `Generator.rendered`: What is rendered from slots.

## Theorems

* `Validated.placed`: Each entry lies in the slot of its opcode.
* `Validated.mem_declared_iff`, `Validated.mem_default_iff`: The two kinds of entries.
* `Validated.finish_eq_ok_iff`: When what the slots hold can be rendered.
* `Validated.generate_eq_of_coherent`: With a coherent registry only cycles can be in the way.
* `generate_eq_ok_iff`: What a run makes, and when.
* `exists_validated_iff`: When a run finds nothing wrong.
-/

namespace OpcodeForge

open Addressing (Registry)
open Opcode
open Specification

namespace Opcode

/-- A placeholder of the reference whose byte no row declares, so that the default is still
    there in the end. -/
structure Standing (registry : Registry) (is : List Instruction)
    (reference : List ReferenceRow) (k : Fin opcodeSpace) (r : ReferenceRow) : Prop where
  row : reference[k.val]? = some r
  placeholder : isPlaceholder r.name = true
  undeclared : ∀ e, ¬DeclaredAs registry is k e

end Opcode

namespace Generator

/-- What is rendered from the instructions and the slots of a run. -/
def rendered (reading : Reading) (b : Builder) : Generation where
  instructions := reading.instructions
  table := ⟨b.entries⟩
  bodies := Rendering.bodies reading.instructions
    (Table.placeholders ⟨b.entries⟩ (reading.instructions.map (·.identifier)))
  dispatch := Rendering.dispatchHead ++ "\n".intercalate (b.entries.map Rendering.armOf)
    ++ Rendering.dispatchTail

namespace Validated

variable {g : Generator} {d : Disk} {reading : Reading} {b : Builder}

/-- A row puts its entry into the slot of its opcode, and so does the reference. -/
theorem placed (hv : Validated g d reading b) : b.Placed := by
  intro k e he
  rcases (hv.get?_iff k e).mp he with ⟨i, hi, rows, hrows, r, hr, hdec, hk⟩ | hdefault
  · exact hk
  · rcases hdefault with ⟨_, r, _, _, rfl⟩
    rfl

theorem bytes (hv : Validated g d reading b) :
    ∀ e ∈ b.entries, ∃ k : Fin opcodeSpace, e.opcode = k.val := by
  intro e he
  rcases (b.mem_entries_iff e).mp he with ⟨k, hk⟩
  exact ⟨k, hv.placed k e hk⟩

/-- The entries that are no defaults are what the rows declare. -/
theorem mem_declared_iff (hv : Validated g d reading b) (e : Entry) :
    e ∈ b.entries ∧ e.isDefault = false ↔
      ∃ k, DeclaredAs g.registry reading.instructions k e := by
  rw [b.mem_entries_iff]
  constructor
  · rintro ⟨⟨k, hk⟩, hdeclared⟩
    rcases (hv.get?_iff k e).mp hk with hdec | ⟨_, r, _, _, rfl⟩
    · exact ⟨k, hdec⟩
    · rw [isDefault_ofReference] at hdeclared
      exact absurd hdeclared (by decide)
  · rintro ⟨k, hdec⟩
    refine ⟨⟨k, (hv.get?_iff k e).mpr (Or.inl hdec)⟩, ?_⟩
    rcases hdec with ⟨i, _, rows, _, r, _, hdec, _⟩
    exact not_isDefault_of_declares g.registry i r e hdec

/-- The defaults among the entries are the placeholders that no row replaces. -/
theorem mem_default_iff (hv : Validated g d reading b) (e : Entry) :
    e ∈ b.entries ∧ e.isDefault = true ↔
      ∃ k r, Standing g.registry reading.instructions g.reference k r ∧
        Entry.ofReference k r = e := by
  rw [b.mem_entries_iff]
  constructor
  · rintro ⟨⟨k, hk⟩, hdefault⟩
    rcases (hv.get?_iff k e).mp hk with ⟨i, _, rows, _, r, _, hdec, _⟩ | ⟨hnone, r, hr, hname, he⟩
    · rw [not_isDefault_of_declares g.registry i r e hdec] at hdefault
      exact absurd hdefault (by decide)
    · exact ⟨k, r, ⟨hr, hname, hnone⟩, he⟩
  · rintro ⟨k, r, hstanding, rfl⟩
    exact ⟨⟨k, (hv.get?_iff k _).mpr (Or.inr ⟨hstanding.undeclared, r, hstanding.row,
      hstanding.placeholder, rfl⟩)⟩, isDefault_ofReference k r⟩

/-- What the slots hold can be rendered if the dispatch can find the modes and write the
    cycles. Nothing is asked of the registry otherwise. -/
theorem finish_eq_ok_iff (hv : Validated g d reading b) (made : Generation) :
    finish g.registry reading b = .ok made ↔
      (∀ e ∈ b.entries, g.registry.isEnabledCode e.mode = true ∧ e.cycles.isWritable = true) ∧
        rendered reading b = made := by
  have htable : Table.ofList b.entries = ⟨b.entries⟩ :=
    congrArg Table.mk (b.entries_ofList hv.placed)
  have hkeys := (Rendering.checkKeys_eq_ok_iff b.entries).mp
    (Rendering.checkKeys_eq b.entries hv.bytes)
  have hsorted := Rendering.byKey_eq b.entries hv.bytes (b.pairwise_entries hv.placed)
  unfold finish
  simp only [hv.failures, List.isEmpty_nil, if_true, htable]
  constructor
  · intro h
    cases hdispatch : Rendering.dispatch g.registry ⟨b.entries⟩ with
    | error x => simp only [hdispatch, reduceCtorEq] at h
    | ok s =>
        simp only [hdispatch, Except.ok.injEq] at h
        rcases (Rendering.dispatch_eq_ok_iff g.registry ⟨b.entries⟩ s).mp hdispatch with
          ⟨hall, htext⟩
        refine ⟨fun e he => (hall e he).2, ?_⟩
        rw [← h, ← htext]
        simp only [hsorted]
        rfl
  · rintro ⟨hall, rfl⟩
    have hdispatch := (Rendering.dispatch_eq_ok_iff g.registry ⟨b.entries⟩ _).mpr
      ⟨fun e he => ⟨hkeys e he, hall e he⟩, rfl⟩
    rw [hdispatch]
    simp only [hsorted]
    rfl

/-- With a coherent registry the outputs are made unless a placeholder that still stands has
    cycles that cannot be written. -/
theorem generate_eq_of_coherent (hv : Validated g d reading b) (hr : g.registry.Coherent)
    (hcycles : ∀ k r, Standing g.registry reading.instructions g.reference k r →
      r.cycles.isWritable = true) : (g.generate d).2 = .ok (rendered reading b) := by
  have hwritable := List.all_eq_true.mp (hv.isWritable_iff.mpr fun k r hrow hname hnone =>
    hcycles k r ⟨hrow, hname, hnone⟩)
  rw [hv.finish_eq, hv.finish_eq_ok_iff]
  refine ⟨fun e he => ⟨?_, hwritable e he⟩, rfl⟩
  rcases (b.mem_entries_iff e).mp he with ⟨k, hk⟩
  exact (hv.renders hr).modes k e hk

end Validated

/-- A run that makes its outputs has found nothing wrong before. -/
theorem exists_validated_of_generate (g : Generator) (d : Disk) (made : Generation)
    (h : (g.generate d).2 = .ok made) : ∃ reading b, g.Validated d reading b := by
  cases hdocuments : documents d g.settings.specDirectory with
  | error x =>
      unfold generate at h
      simp only [hdocuments, reduceCtorEq] at h
  | ok found =>
      rcases found with ⟨lib, ids⟩
      rcases hread : readDocuments g.settings.headings lib d ids with ⟨reading, x | u⟩
      · rw [g.generate_of_stop d lib ids x hdocuments (by rw [hread])] at h
        exact absurd h (by simp only [reduceCtorEq, not_false_eq_true])
      · rw [g.generate_of_documents d lib ids reading hdocuments hread] at h
        unfold assemble at h
        cases hseed : (Builder.empty g.registry).seed g.reference with
        | error f => simp only [hseed, reduceCtorEq] at h
        | ok seeded =>
            rcases seeded with ⟨start, count⟩
            simp only [hseed] at h
            rcases hrun : addAll start reading.instructions with ⟨b, log, x | u⟩
            · simp only [hrun, reduceCtorEq] at h
            · simp only [hrun] at h
              refine ⟨reading, b, ⟨lib, ids, hdocuments, hread⟩, ⟨start, count, log, hseed, hrun⟩,
                ?_⟩
              by_contra hne
              unfold finish at h
              simp only [List.isEmpty_iff, hne, if_false, reduceCtorEq] at h

/-- What a run makes is what is rendered from its slots once nothing was found wrong. -/
theorem generate_eq_ok_iff (g : Generator) (d : Disk) (made : Generation) :
    (g.generate d).2 = .ok made ↔ ∃ reading b, g.Validated d reading b ∧
      (∀ e ∈ b.entries, g.registry.isEnabledCode e.mode = true ∧ e.cycles.isWritable = true) ∧
        rendered reading b = made := by
  constructor
  · intro h
    rcases exists_validated_of_generate g d made h with ⟨reading, b, hv⟩
    rw [hv.finish_eq] at h
    exact ⟨reading, b, hv, (hv.finish_eq_ok_iff made).mp h⟩
  · rintro ⟨reading, b, hv, hmade⟩
    rw [hv.finish_eq]
    exact (hv.finish_eq_ok_iff made).mpr hmade

/-- A run finds nothing wrong if there is nothing wrong with its documents, its reference
    and its rows. -/
theorem exists_validated_iff (g : Generator) (d : Disk) (reading : Reading) :
    (∃ b, g.Validated d reading b) ↔
      (∃ lib ids, documents d g.settings.specDirectory = .ok (lib, ids) ∧
        readDocuments g.settings.headings lib d ids = (reading, .ok ())) ∧
      reading.failures = [] ∧ g.reference.length = opcodeSpace ∧
      (∀ x ∈ rowsOf reading.instructions, x.2.HasReadableCycles) ∧
      referenceFailures g.registry 0 g.reference = [] ∧
      rowFailures g.registry [] (rowsOf reading.instructions) = [] := by
  constructor
  · rintro ⟨b, hv⟩
    rcases hv.rows with ⟨start, count, log, hseed, hrun⟩
    rcases hv.holds with ⟨_, _, _, _, href, hrow⟩
    rcases List.append_eq_nil_iff.mp hv.failures with ⟨hdocument, hbuilder⟩
    exact ⟨hv.documents, hdocument, hv.length_reference,
      Builder.readable_of_addAll _ start b log hrun hbuilder, href, hrow⟩
  · rintro ⟨hdocuments, hdocument, hlen, hread, href, hrow⟩
    rcases holds_fresh g.registry (some g.reference) reading.instructions
      (fun rows hrows => Option.some.inj hrows ▸ hlen) hread with
      ⟨start, b, log, hfresh, hrun, hreg, _, hfail, h⟩
    rcases seed_of_fresh _ _ start hfresh with ⟨count, hseed⟩
    refine ⟨b, hdocuments, ⟨start, count, log, hseed, hrun⟩, ?_⟩
    rw [hdocument, h.failures, hfail, hreg, Option.getD_some, href, hrow]
    rfl

theorem standing_loadRun (cycles : Int) (k : Fin opcodeSpace) (r : ReferenceRow) :
    Standing (loadRun cycles).registry [loadInstruction] (loadRun cycles).reference k r ↔
      k = ⟨0, by decide⟩ ∧ ⟨"imp", "NOP", .count cycles⟩ = r := by
  constructor
  · intro h
    rcases placeholder_onePlaceholder cycles k r h.row h.placeholder with ⟨hk, hr⟩
    exact ⟨Fin.ext hk, hr⟩
  · rintro ⟨rfl, rfl⟩
    have hname : isPlaceholder "NOP" = true := by decide +kernel
    refine ⟨rfl, hname, fun e he => ?_⟩
    exact absurd ((declaredAs_loadInstruction _ e).mp he).1 (by decide)

theorem generate_loadRun :
    ∃ b, (loadRun 2).Validated loadDisk ⟨[loadInstruction], [], []⟩ b ∧
      ((loadRun 2).generate loadDisk).2 = .ok (rendered ⟨[loadInstruction], [], []⟩ b) := by
  rcases validated_loadRun 2 with ⟨b, hv⟩
  have hr : (loadRun 2).registry.Coherent :=
    Registry.coherent_of_nodup Addressing.defaultCapabilities (by decide)
  refine ⟨b, hv, hv.generate_eq_of_coherent hr fun k r hstanding => ?_⟩
  rw [← ((standing_loadRun 2 k r).mp hstanding).2]
  decide +kernel

end Generator

end OpcodeForge
