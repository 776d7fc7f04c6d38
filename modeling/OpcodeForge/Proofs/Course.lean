import OpcodeForge.Proofs.Output.Written
import OpcodeForge.Proofs.Stopping

/-!
# The Course of a Run

A run comes as far as its directory, as its documents, as its reports, or as its outputs
(`Generator.Course`). At each stage it may stop without a report (`Generator.Unreported`), and at
each but the second it may report why it goes no further (`Generator.Refused`). Both lists are
complete, and what decides is said in terms of the disk, the settings and the rows.

A run that comes through has written both texts, although not always to both paths
(`Output.Written`).

## Main definitions

* `Generator.Course`: How far a run comes.
* `Generator.Unreported`: Why a run stops without a report.
* `Generator.Refused`: Why a run reports something else than success, and what.

## Theorems

* `Generator.course`: There is no other way for a run to go.
* `Generator.run_eq_defect_iff`, `Generator.run_eq_failure_iff`: When a run stops, and how.
* `Generator.written_of_run`: What a run that does not stop leaves.
-/

namespace OpcodeForge.Generator

open Opcode
open Specification

variable {g : Generator} {d : Disk} {lib : Library} {ids : List String}

/-- The write at the end of a run. -/
def written (g : Generator) (d : Disk) (made : Generation) : Outcome Unit :=
  Output.write d g.settings.instructionsPath g.settings.dispatchPath made.bodies made.dispatch

theorem run_of_generate_error {x : Halt} (h : (g.generate d).2 = .error x) :
    (g.run d).result = .error x := by
  unfold run
  rw [show g.generate d = ((g.generate d).1, .error x) from Prod.ext rfl h]

theorem run_of_documents_error {x : Halt} (h : documents d g.settings.specDirectory = .error x) :
    (g.run d).result = .error x := by
  refine run_of_generate_error ?_
  unfold generate
  rw [h]

theorem run_of_tooLong (hg : g.Ready) (h : documents d g.settings.specDirectory = .ok (lib, ids))
    (hlong : g.TooLong lib d ids) : (g.run d).result = .error (.defect .numberTooLong) :=
  run_of_generate_error (hlong.generate_eq hg h)

theorem run_of_failures (hg : g.Ready) (h : documents d g.settings.specDirectory = .ok (lib, ids))
    (hlong : ¬g.TooLong lib d ids) (hne : g.failures lib d ids ≠ []) :
    (g.run d).result = .error (.failure (.generation (g.failures lib d ids))) := by
  rcases generate_of_not_tooLong hg h hlong with ⟨-, hgenerate⟩ | ⟨hnone, -⟩
  · exact run_of_generate_error hgenerate
  · exact absurd hnone hne

/-- A run with something to write writes it. -/
theorem run_of_generate_ok {made : Generation} (h : (g.generate d).2 = .ok made) :
    (g.run d).disk = (g.written d made).disk ∧
      (g.run d).result = (g.written d made).result.map fun _ => made := by
  unfold run
  rw [show g.generate d = ((g.generate d).1, .ok made) from Prod.ext rfl h]
  exact ⟨rfl, rfl⟩

/-- How far a run comes. -/
inductive Course (g : Generator) (d : Disk) : Prop
  | directory (x : Halt) (h : documents d g.settings.specDirectory = .error x)
  | documents (lib : Library) (ids : List String)
      (hdocuments : documents d g.settings.specDirectory = .ok (lib, ids))
      (h : g.TooLong lib d ids)
  | reports (lib : Library) (ids : List String)
      (hdocuments : documents d g.settings.specDirectory = .ok (lib, ids))
      (hlong : ¬g.TooLong lib d ids) (h : g.failures lib d ids ≠ [])
  | outputs (lib : Library) (ids : List String) (made : Generation)
      (hdocuments : documents d g.settings.specDirectory = .ok (lib, ids))
      (hlong : ¬g.TooLong lib d ids) (h : g.failures lib d ids = [])
      (hmade : (g.generate d).2 = .ok made)

theorem course (hg : g.Ready) (d : Disk) : g.Course d := by
  cases hdocuments : documents d g.settings.specDirectory with
  | error x => exact .directory x hdocuments
  | ok listed =>
      by_cases hlong : g.TooLong listed.1 d listed.2
      · exact .documents _ _ hdocuments hlong
      · rcases generate_of_not_tooLong hg hdocuments hlong with ⟨hne, -⟩ | ⟨hnone, made, hmade⟩
        · exact .reports _ _ hdocuments hlong hne
        · exact .outputs _ _ made hdocuments hlong hnone hmade

/-- Why a run stops without a report. -/
inductive Unreported (g : Generator) (d : Disk) : Defect → Prop
  | directory (h : Crowded d g.settings.specDirectory) : Unreported g d .notAPath
  | documents (lib : Library) (ids : List String)
      (hdocuments : documents d g.settings.specDirectory = .ok (lib, ids))
      (h : g.TooLong lib d ids) : Unreported g d .numberTooLong
  | first (made : Generation) (x : Defect) (hmade : (g.generate d).2 = .ok made)
      (h : Output.BadTarget d g.settings.instructionsPath x) : Unreported g d x
  /-- The first text is staged by then, and that may have made directories. -/
  | second (made : Generation) (e : Disk) (a : Output.Staged) (x : Defect)
      (hmade : (g.generate d).2 = .ok made)
      (hstage : Output.stage d g.settings.instructionsPath made.bodies = (e, .ok a))
      (h : Output.BadTarget e g.settings.dispatchPath x) : Unreported g d x

/-- Why a run reports something else than success, and what. -/
inductive Refused (g : Generator) (d : Disk) : Failure → Prop
  | directory (h : d.isDirectory (g.settings.specDirectory.diskPath?.getD "") = false) :
      Refused g d (.specDirectory g.settings.specDirectory.plain)
  /-- All faults of the documents and of the reference are reported together. -/
  | reports (lib : Library) (ids : List String)
      (hdocuments : documents d g.settings.specDirectory = .ok (lib, ids))
      (hlong : ¬g.TooLong lib d ids) (h : g.failures lib d ids ≠ []) :
      Refused g d (.generation (g.failures lib d ids))
  | output (made : Generation) (target : Value) (fault : WriteFault)
      (htarget : target = g.settings.instructionsPath ∨ target = g.settings.dispatchPath)
      (hmade : (g.generate d).2 = .ok made)
      (h : (g.written d made).result = .error (.failure (.outputWrite target.plain fault))) :
      Refused g d (.outputWrite target.plain fault)

/-- What keeps the outputs from being written, if there is no report. -/
theorem written_eq_defect_iff (hg : g.Ready) (made : Generation) (x : Defect) :
    (g.written d made).result = .error (.defect x) ↔
      Output.BadTarget d g.settings.instructionsPath x ∨ ∃ e a,
        Output.stage d g.settings.instructionsPath made.bodies = (e, .ok a) ∧
          Output.BadTarget e g.settings.dispatchPath x :=
  Output.write_eq_defect_iff d _ _ made.bodies made.dispatch x hg.isPath_instructionsPath
    hg.isPath_dispatchPath

/-- A run stops without a report exactly for these reasons. -/
theorem run_eq_defect_iff (hg : g.Ready) (x : Defect) :
    (g.run d).result = .error (.defect x) ↔ g.Unreported d x := by
  constructor
  · intro hresult
    cases g.course hg d with
    | directory y h =>
        rw [run_of_documents_error h, Except.error.injEq] at hresult
        rcases (documents_eq_defect_iff d _ hg.isPath_specDirectory x).mp (hresult ▸ h)
          with ⟨rfl, hcrowded⟩
        exact .directory hcrowded
    | documents lib ids hdocuments h =>
        rw [run_of_tooLong hg hdocuments h, error_defect_eq_iff] at hresult
        exact hresult ▸ .documents lib ids hdocuments h
    | reports lib ids hdocuments hlong h =>
        rw [run_of_failures hg hdocuments hlong h] at hresult
        exact absurd hresult (by simp only [Except.error.injEq, reduceCtorEq, not_false_eq_true])
    | outputs lib ids made hdocuments hlong h hmade =>
        rw [(run_of_generate_ok hmade).2, map_eq_error_iff, written_eq_defect_iff hg] at hresult
        rcases hresult with hfirst | ⟨e, a, hstage, hsecond⟩
        · exact .first made x hmade hfirst
        · exact .second made e a x hmade hstage hsecond
  · intro h
    cases h with
    | directory h =>
        exact run_of_documents_error
          ((documents_eq_defect_iff d _ hg.isPath_specDirectory _).mpr ⟨rfl, h⟩)
    | documents lib ids hdocuments h => exact run_of_tooLong hg hdocuments h
    | first made x hmade h =>
        rw [(run_of_generate_ok hmade).2, map_eq_error_iff, written_eq_defect_iff hg]
        exact Or.inl h
    | second made e a x hmade hstage h =>
        rw [(run_of_generate_ok hmade).2, map_eq_error_iff, written_eq_defect_iff hg]
        exact Or.inr ⟨e, a, hstage, h⟩

/-- A run reports that it goes no further exactly for these reasons. -/
theorem run_eq_failure_iff (hg : g.Ready) (f : Failure) :
    (g.run d).result = .error (.failure f) ↔ g.Refused d f := by
  constructor
  · intro hresult
    cases g.course hg d with
    | directory y h =>
        rw [run_of_documents_error h, Except.error.injEq] at hresult
        rcases (documents_eq_failure_iff d _ hg.isPath_specDirectory f).mp (hresult ▸ h)
          with ⟨rfl, hnone⟩
        exact .directory hnone
    | documents lib ids hdocuments h =>
        rw [run_of_tooLong hg hdocuments h] at hresult
        exact absurd hresult (by simp only [Except.error.injEq, reduceCtorEq, not_false_eq_true])
    | reports lib ids hdocuments hlong h =>
        rw [run_of_failures hg hdocuments hlong h, error_failure_eq_iff] at hresult
        exact hresult ▸ .reports lib ids hdocuments hlong h
    | outputs lib ids made hdocuments hlong h hmade =>
        rw [(run_of_generate_ok hmade).2, map_eq_error_iff] at hresult
        rcases Output.outputWrite_of_write_failure d _ _ _ _ f hresult
          with ⟨target, fault, rfl, rfl | rfl⟩
        · exact .output made _ fault (Or.inl rfl) hmade hresult
        · exact .output made _ fault (Or.inr rfl) hmade hresult
  · intro h
    cases h with
    | directory h =>
        exact run_of_documents_error
          ((documents_eq_failure_iff d _ hg.isPath_specDirectory _).mpr ⟨rfl, h⟩)
    | reports lib ids hdocuments hlong h => exact run_of_failures hg hdocuments hlong h
    | output made target fault htarget hmade h =>
        rw [(run_of_generate_ok hmade).2, map_eq_error_iff]
        exact h

/-- A run that does not stop had nothing to report, and has left both of its texts. -/
theorem written_of_run (hg : g.Ready) (made : Generation) (h : (g.run d).result = .ok made) :
    ∃ lib ids p q, documents d g.settings.specDirectory = .ok (lib, ids) ∧
      g.failures lib d ids = [] ∧ (g.generate d).2 = .ok made ∧
      g.settings.instructionsPath = .text p ∧ g.settings.dispatchPath = .text q ∧
      Output.Written (g.run d).disk p q made.bodies made.dispatch := by
  cases g.course hg d with
  | directory y hdocuments =>
      rw [run_of_documents_error hdocuments] at h
      exact absurd h (by simp only [reduceCtorEq, not_false_eq_true])
  | documents lib ids hdocuments hlong =>
      rw [run_of_tooLong hg hdocuments hlong] at h
      exact absurd h (by simp only [reduceCtorEq, not_false_eq_true])
  | reports lib ids hdocuments hlong hne =>
      rw [run_of_failures hg hdocuments hlong hne] at h
      exact absurd h (by simp only [reduceCtorEq, not_false_eq_true])
  | outputs lib ids made' hdocuments hlong hnone hmade =>
      rcases run_of_generate_ok hmade with ⟨hdisk, hresult⟩
      rw [hresult] at h
      rcases hwritten : g.written d made' with ⟨e, log, stop | u⟩
      · rw [hwritten] at h
        exact absurd h (by simp only [Except.map, reduceCtorEq, not_false_eq_true])
      · rw [hwritten] at h hdisk
        have hsame : made' = made := Except.ok.inj h
        rcases Output.written_of_write d e _ _ _ _ log hwritten with ⟨p, q, hp, hq, hboth⟩
        rw [hdisk, ← hsame]
        exact ⟨lib, ids, p, q, hdocuments, hnone, hmade, hp, hq, hboth⟩

end OpcodeForge.Generator
