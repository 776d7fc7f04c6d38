import OpcodeForge.Proofs.Course
import OpcodeForge.Proofs.Limits
import OpcodeForge.Proofs.Opcode.ReferenceFile

/-!
# Exit Codes

The command sets a run up and lets it go, and its exit code tells how far it came. A command
without an exit code has stopped without a report. It may do so while the run is set up
(`CommandLine.Unprepared`), or when the run goes (`Generator.Unreported`), and not otherwise.

So an exit code says what it is meant to say. Two means that there is no run, because of the
settings or the reference. One means that the run has reported a fault, of its documents, of
the reference with its flags, or of an output. Zero means that both texts are written.

All this is about commands whose files and outputs are within the limits of a run
(`CommandLine.Modest`). Beyond them a command can stop in further ways.

## Main definitions

* `CommandLine.prepare`: Sets up the run that options ask for.
* `CommandLine.Unprepared`: A run cannot be set up, and there is no report.
* `CommandLine.Unreported`: Why a command has no exit code.

## Theorems

* `Generator.stopsFor_ofSettings`, `CommandLine.stopsFor_configured`: The causes of each step.
* `CommandLine.stopsFor_prepare`: When a run cannot be set up.
* `CommandLine.ready_of_prepare`: What a run that is set up has.
* `CommandLine.execute_result`: When there is which exit code.
-/

namespace OpcodeForge

open Addressing (Registry)
open Opcode

namespace Addressing.Registry

/-- A label without a mode is the only thing that can be wrong with flags. -/
theorem config_of_setFlags_error (flags : List (String × Bool)) : ∀ (cs : List Capability)
    (f : Failure), setFlags cs flags = .error f → ∃ fault, f = .config fault := by
  induction flags with
  | nil =>
      intro cs f h
      exact absurd h (by simp only [setFlags, reduceCtorEq, not_false_eq_true])
  | cons x rest ih =>
      intro cs f h
      rw [setFlags] at h
      split at h
      · exact ⟨_, (Except.error.inj h).symm⟩
      · exact ih _ f h

theorem config_of_withOverrides_error (r : Registry) (flags : List (String × Bool)) (f : Failure)
    (h : r.withOverrides flags = .error f) : ∃ fault, f = .config fault := by
  unfold withOverrides at h
  cases hset : setFlags r.labelled flags with
  | error f' =>
      rw [hset] at h
      rw [← Except.error.inj h]
      exact config_of_setFlags_error flags r.labelled f' hset
  | ok cs =>
      rw [hset] at h
      exact absurd h (by simp only [Except.map, reduceCtorEq, not_false_eq_true])

end Addressing.Registry

namespace Generator

variable {d : Disk} {s : Settings}

theorem stopsFor_chooseReference (hs : ∀ v ∈ s.paths, v.IsPath) :
    StopsFor (fun x => s.referenceFile.isTruthy = true ∧ UnloadedReference d s.referenceFile x)
      (chooseReference d s none) := by
  unfold chooseReference
  dsimp only
  cases htruthy : s.referenceFile.isTruthy with
  | true =>
      have hpath := ((s.forall_mem_paths_iff _).mp hs).2.2.2 htruthy
      exact (stopsFor_loadReference d s.referenceFile hpath).congr fun x => by simp only [true_and]
  | false =>
      exact (StopsFor.ok _).congr fun x => by simp only [Bool.false_eq_true, false_and]

theorem length_chooseReference (rows : List ReferenceRow)
    (h : chooseReference d s none = .ok rows) : rows.length = opcodeSpace := by
  unfold chooseReference at h
  dsimp only at h
  split at h
  · exact length_of_loadReference d s.referenceFile rows h
  · rw [← Except.ok.inj h]
    exact length_defaultReference

/-- With a registry, it depends on the reference alone whether a run can be set up. -/
theorem stopsFor_ofSettings (registry : Registry) (hs : ∀ v ∈ s.paths, v.IsPath) :
    StopsFor (fun x => (∃ r, registry.withOverrides s.modes = .ok r) ∧
      s.referenceFile.isTruthy = true ∧ UnloadedReference d s.referenceFile x)
      (ofSettings d s registry none) := by
  unfold ofSettings
  cases hr : registry.withOverrides s.modes with
  | error f =>
      rcases registry.config_of_withOverrides_error s.modes f hr with ⟨fault, rfl⟩
      exact (StopsFor.config fault).congr fun x => by
        simp only [reduceCtorEq, exists_false, false_and]
  | ok r =>
      exact ((stopsFor_chooseReference hs).map _).congr fun x => by
        simp only [Except.ok.injEq, exists_eq', true_and]

theorem ready_of_ofSettings (g : Generator) (hs : ∀ v ∈ s.paths, v.IsPath)
    (h : ofSettings d s .default none = .ok g) : g.Ready := by
  rcases (ofSettings_eq_ok_iff d s .default none g).mp h with ⟨rfl, hregistry, hreference⟩
  exact ⟨Registry.coherent_of_overrides _ g.registry hregistry,
    length_chooseReference g.reference hreference, hs⟩

end Generator

namespace CommandLine

variable {d : Disk} {o : Options}

/-- The run that options ask for. -/
def prepare (d : Disk) (o : Options) : Except Halt Generator :=
  settings d o >>= fun s => Generator.ofSettings d s .default none

/-- The settings that a file gives. -/
def configured (d : Disk) (o : Options) : Except Halt Settings :=
  if o.config.isEmpty then .ok Settings.default else Settings.load d o.config

/-- Settings under the paths that options give. -/
def Options.over (o : Options) (s : Settings) : Settings :=
  { s with
    specDirectory := given o.specDirectory s.specDirectory
    instructionsPath := given o.instructionsPath s.instructionsPath
    dispatchPath := given o.dispatchPath s.dispatchPath }

theorem settings_eq (d : Disk) (o : Options) :
    settings d o = (configured d o).map o.over := by
  unfold settings configured
  cases o.config.isEmpty with
  | true => rfl
  | false => rcases Settings.load d o.config with stop | s <;> rfl

theorem stopsFor_configured (d : Disk) (o : Options) :
    StopsFor (fun x => o.config.isEmpty = false ∧ Settings.Unloaded d o.config x)
      (configured d o) := by
  unfold configured
  cases o.config.isEmpty with
  | true => exact (StopsFor.ok _).congr fun x => by simp only [Bool.true_eq_false, false_and]
  | false => exact (Settings.stopsFor_load d o.config).congr fun x => by simp only [true_and]

theorem isPath_of_configured (s : Settings) (h : configured d o = .ok s) :
    ∀ v ∈ s.paths, v.IsPath := by
  unfold configured at h
  split at h
  · rw [← Except.ok.inj h, Settings.forall_mem_paths_iff]
    exact ⟨Or.inl ⟨_, rfl⟩, Or.inl ⟨_, rfl⟩, Or.inl ⟨_, rfl⟩, fun hnull => by cases hnull⟩
  · exact Settings.isPath_of_load d o.config s h

theorem isPath_given (option : String) (v : Value) (hv : v.IsPath) : (given option v).IsPath := by
  unfold given
  split
  · exact hv
  · exact Or.inl ⟨option, rfl⟩

theorem isPath_of_settings (s : Settings) (h : settings d o = .ok s) :
    ∀ v ∈ s.paths, v.IsPath := by
  rw [settings_eq] at h
  cases hs : configured d o with
  | error stop =>
      rw [hs] at h
      exact absurd h (by simp only [Except.map, reduceCtorEq, not_false_eq_true])
  | ok s' =>
      rw [hs] at h
      rcases (s'.forall_mem_paths_iff _).mp (isPath_of_configured s' hs) with
        ⟨hspec, hinstructions, hdispatch, hreference⟩
      rw [← Except.ok.inj h, Settings.forall_mem_paths_iff]
      exact ⟨isPath_given _ _ hspec, isPath_given _ _ hinstructions, isPath_given _ _ hdispatch,
        hreference⟩

/-- What keeps a run from being set up, if there is no report. -/
inductive Unprepared (d : Disk) (o : Options) : Defect → Prop
  | settings (x : Defect) (hconfig : o.config.isEmpty = false)
      (h : Settings.Unloaded d o.config x) : Unprepared d o x
  /-- The flags of the settings are looked at before the reference is. -/
  | reference (s : Settings) (r : Registry) (x : Defect) (hs : CommandLine.settings d o = .ok s)
      (hr : Registry.default.withOverrides s.modes = .ok r)
      (hreference : s.referenceFile.isTruthy = true)
      (h : UnloadedReference d s.referenceFile x) : Unprepared d o x

theorem stopsFor_prepare (d : Disk) (o : Options) : StopsFor (Unprepared d o) (prepare d o) := by
  have hsettings : StopsFor _ (settings d o) :=
    settings_eq d o ▸ (stopsFor_configured d o).map o.over
  refine StopsFor.congr (hsettings.bind fun s hs =>
    Generator.stopsFor_ofSettings .default (isPath_of_settings s hs)) fun x => ?_
  constructor
  · rintro (⟨hconfig, h⟩ | ⟨s, hs, ⟨r, hr⟩, hreference, h⟩)
    · exact .settings x hconfig h
    · exact .reference s r x hs hr hreference h
  · intro h
    cases h with
    | settings x hconfig h => exact Or.inl ⟨hconfig, h⟩
    | reference s r x hs hr hreference h => exact Or.inr ⟨s, hs, ⟨r, hr⟩, hreference, h⟩

theorem ready_of_prepare (g : Generator) (h : prepare d o = .ok g) : g.Ready := by
  rcases exists_of_bind_eq_ok h with ⟨s, hs, hg⟩
  exact Generator.ready_of_ofSettings g (isPath_of_settings s hs) hg

/-- Why a command that understands its options has no exit code. -/
inductive Unreported (d : Disk) (o : Options) : Defect → Prop
  | preparing (x : Defect) (h : Unprepared d o x) : Unreported d o x
  | running (g : Generator) (x : Defect) (hg : prepare d o = .ok g) (h : g.Unreported d x) :
      Unreported d o x

theorem exitCodes_apart :
    exitMisused ≠ exitDone ∧ exitMisused ≠ exitFailed ∧ exitFailed ≠ exitDone := by
  decide

theorem perform_of_report (f : Failure) (h : prepare d o = .error (.failure f)) :
    (perform d o).result = .ok exitMisused := by
  unfold perform
  rw [show (settings d o >>= _) = .error (.failure f) from h]

theorem perform_of_defect (x : Defect) (h : prepare d o = .error (.defect x)) :
    (perform d o).result = .error x := by
  unfold perform
  rw [show (settings d o >>= _) = .error (.defect x) from h]

theorem perform_of_prepare (g : Generator) (h : prepare d o = .ok g) :
    perform d o = endingOf o (g.run d) := by
  unfold perform
  rw [show (settings d o >>= _) = .ok g from h]

theorem disk_endingOf (o : Options) (outcome : Outcome Generation) :
    (endingOf o outcome).disk = outcome.disk := by
  unfold endingOf
  rcases outcome.result with (f | x) | made <;> rfl

theorem endingOf_eq_error_iff (o : Options) (outcome : Outcome Generation) (x : Defect) :
    (endingOf o outcome).result = .error x ↔ outcome.result = .error (.defect x) := by
  unfold endingOf
  rcases outcome.result with (f | y) | made <;>
    simp only [reduceCtorEq, Except.error.injEq, Halt.defect.injEq]

theorem endingOf_eq_ok_iff (o : Options) (outcome : Outcome Generation) (code : Nat) :
    (endingOf o outcome).result = .ok code ↔
      (code = exitDone ∧ ∃ made, outcome.result = .ok made) ∨
        code = exitFailed ∧ ∃ f, outcome.result = .error (.failure f) := by
  unfold endingOf
  rcases outcome.result with (f | y) | made <;>
    simp only [reduceCtorEq, Except.ok.injEq, Except.error.injEq, Halt.failure.injEq, exists_eq',
      exists_false, and_true, and_false, or_false, false_or, eq_comm]

theorem perform_eq_error_iff (x : Defect) :
    (perform d o).result = .error x ↔ Unreported d o x := by
  have hstops := stopsFor_prepare d o
  constructor
  · intro hresult
    rcases hprepare : prepare d o with (f | y) | g
    · rw [perform_of_report f hprepare] at hresult
      exact absurd hresult (by simp only [reduceCtorEq, not_false_eq_true])
    · rw [perform_of_defect y hprepare, Except.error.injEq] at hresult
      exact hresult ▸ .preparing y ((hstops.defect y).mp hprepare)
    · rw [perform_of_prepare g hprepare, endingOf_eq_error_iff,
        Generator.run_eq_defect_iff (ready_of_prepare g hprepare)] at hresult
      exact .running g x hprepare hresult
  · intro h
    cases h with
    | preparing x h => exact perform_of_defect x ((hstops.defect x).mpr h)
    | running g x hg h =>
        rw [perform_of_prepare g hg, endingOf_eq_error_iff,
          Generator.run_eq_defect_iff (ready_of_prepare g hg)]
        exact h

theorem perform_eq_misused_iff : (perform d o).result = .ok exitMisused ↔
    (∀ g, prepare d o ≠ .ok g) ∧ ∀ x, ¬Unprepared d o x := by
  have hstops := stopsFor_prepare d o
  rcases hprepare : prepare d o with (f | y) | g
  · refine iff_of_true (perform_of_report f hprepare) ⟨fun g => ?_, fun x hx => ?_⟩
    · simp only [ne_eq, reduceCtorEq, not_false_eq_true]
    · rw [← hstops.defect x, hprepare] at hx
      exact absurd hx (by simp only [Except.error.injEq, reduceCtorEq, not_false_eq_true])
  · refine iff_of_false ?_ fun hnot => hnot.2 y ((hstops.defect y).mp hprepare)
    rw [perform_of_defect y hprepare]
    simp only [reduceCtorEq, not_false_eq_true]
  · -- A run that goes ends with one of the other two codes, if with any.
    refine iff_of_false ?_ fun hnot => hnot.1 g rfl
    rw [perform_of_prepare g hprepare, endingOf_eq_ok_iff]
    simp only [exitCodes_apart.1, exitCodes_apart.2.1, false_and, or_self, not_false_eq_true]

theorem perform_eq_failed_iff : (perform d o).result = .ok exitFailed ↔
    ∃ g f, prepare d o = .ok g ∧ g.Refused d f := by
  rcases hprepare : prepare d o with (f | y) | g
  · rw [perform_of_report f hprepare]
    simp only [Except.ok.injEq, exitCodes_apart.2.1, reduceCtorEq, false_and, exists_false]
  · rw [perform_of_defect y hprepare]
    simp only [reduceCtorEq, false_and, exists_false]
  · have hready := ready_of_prepare g hprepare
    rw [perform_of_prepare g hprepare, endingOf_eq_ok_iff]
    simp only [exitCodes_apart.2.2, false_and, false_or, true_and, Except.ok.injEq,
      exists_and_left, exists_eq_left', Generator.run_eq_failure_iff hready]

/-- A command that has done its work has found nothing wrong and left both texts. -/
theorem written_of_perform (h : (perform d o).result = .ok exitDone) :
    ∃ g lib ids p q made, prepare d o = .ok g ∧
      Generator.documents d g.settings.specDirectory = .ok (lib, ids) ∧
      g.failures lib d ids = [] ∧ (g.generate d).2 = .ok made ∧
      g.settings.instructionsPath = .text p ∧ g.settings.dispatchPath = .text q ∧
      Output.Written (perform d o).disk p q made.bodies made.dispatch := by
  rcases hprepare : prepare d o with (f | y) | g
  · rw [perform_of_report f hprepare] at h
    exact absurd (Except.ok.inj h) exitCodes_apart.1
  · rw [perform_of_defect y hprepare] at h
    exact absurd h (by simp only [reduceCtorEq, not_false_eq_true])
  · rw [perform_of_prepare g hprepare] at h ⊢
    rcases (endingOf_eq_ok_iff o _ _).mp h with ⟨-, made, hmade⟩ | ⟨hcode, -⟩
    · rcases Generator.written_of_run (ready_of_prepare g hprepare) made hmade with
        ⟨lib, ids, p, q, hdocuments, hnone, hgenerate, hp, hq, hwritten⟩
      refine ⟨g, lib, ids, p, q, made, rfl, hdocuments, hnone, hgenerate, hp, hq, ?_⟩
      rw [disk_endingOf]
      exact hwritten
    · exact absurd hcode.symm exitCodes_apart.2.2

theorem mem_codes_of_perform (code : Nat) (h : (perform d o).result = .ok code) :
    code = exitDone ∨ code = exitFailed ∨ code = exitMisused := by
  rcases hprepare : prepare d o with (f | y) | g
  · rw [perform_of_report f hprepare, Except.ok.injEq] at h
    exact Or.inr (Or.inr h.symm)
  · rw [perform_of_defect y hprepare] at h
    exact absurd h (by simp only [reduceCtorEq, not_false_eq_true])
  · rw [perform_of_prepare g hprepare] at h
    rcases (endingOf_eq_ok_iff o _ code).mp h with ⟨hcode, -⟩ | ⟨hcode, -⟩
    · exact Or.inl hcode
    · exact Or.inr (Or.inl hcode)

/-- A disk with a configuration. -/
def configDisk (bytes : List UInt8) : Disk :=
  ⟨[], [(["generator.yaml"], .file bytes)]⟩

/-- The options that name the configuration. -/
def configOptions : Options :=
  { Options.none with config := "generator.yaml" }

/-- A command whose settings cannot be read looks at nothing else. -/
theorem modest_configDisk (bytes : List UInt8)
    (hfile : Settings.ModestFile (configDisk bytes) "generator.yaml")
    (h : (settings (configDisk bytes) configOptions).toOption = none) :
    Modest (configDisk bytes) configOptions := by
  refine ⟨fun _ => hfile, fun s path hs => ?_, fun s path hs => ?_⟩
  · rw [hs] at h
    exact absurd h (by simp only [Except.toOption, reduceCtorEq, not_false_eq_true])
  · rw [hs] at h
    exact absurd h (by simp only [Except.toOption, reduceCtorEq, not_false_eq_true])

/-- A configuration whose directory is a number. -/
def numberConfig : List Char :=
  "spec_dir: 1".toList

/-- What is true of a result can be looked up in it. -/
theorem of_all_toOption {ε α : Type} {r : Except ε α} {p : α → Bool}
    (h : r.toOption.all p = true) (a : α) (ha : r = .ok a) : p a = true := by
  rw [ha] at h
  exact h

theorem modest_numberConfig : Yaml.Modest numberConfig where
  opened := by decide +kernel
  scanned := by
    have hdone : (Yaml.Scanner.run (numberConfig.length + 1)
        (.ofText numberConfig)).toOption.isSome = true := by decide +kernel
    intro fault h
    rw [h] at hdone
    exact absurd hdone Bool.false_ne_true
  whole := fun ds hds => Yaml.startsSurrogate_of_not_mem numberConfig ds (by decide) hds
  merges := fun n h => by
    have hall : (Yaml.document? numberConfig).toOption.all (fun found =>
        found.all fun n => decide (n.graph.merges ≤ maxMerges)) = true := by decide +kernel
    exact of_decide_eq_true (of_all_toOption hall (some n) h)
  standsFor := fun n h v hv => by
    have hall : (Yaml.document? numberConfig).toOption.all (fun found =>
        found.all fun n => n.graph.vertices.all fun v => !v.isStoodFor) = true := by decide +kernel
    exact (Bool.not_eq_true' _).mp
      (Array.all_eq_true_iff_forall_mem.mp (of_all_toOption hall (some n) h) v hv)
  depth := fun v h => by
    have hall : (Yaml.load numberConfig).toOption.all (fun v => decide (v.depth ≤ maxNesting)) =
        true := by decide +kernel
    exact of_decide_eq_true (of_all_toOption hall v h)

theorem modest_brokenConfig : Modest (configDisk [255]) configOptions := by
  have hread : (configDisk [255]).read "generator.yaml" = .ok [255] := rfl
  have hdecode : Text.decode [255] = .error ⟨.invalidStart, 0⟩ := rfl
  -- The file is no text, so only its length counts.
  refine modest_configDisk [255] ⟨fun bytes cs h hcs => ?_, fun bytes fault h _ => ?_⟩
    (by decide +kernel)
  · rw [← Except.ok.inj (hread.symm.trans h), hdecode] at hcs
    exact absurd hcs (by simp only [reduceCtorEq, not_false_eq_true])
  · rw [← Except.ok.inj (hread.symm.trans h)]
    decide

/-- The bytes of the configuration with the number. -/
def numberBytes : List UInt8 :=
  Text.encode (String.ofList numberConfig)

theorem modest_numberBytes : Modest (configDisk numberBytes) configOptions := by
  have hread : (configDisk numberBytes).read "generator.yaml" = .ok numberBytes := rfl
  have hdecode : Text.decode numberBytes = .ok numberConfig := by
    rw [numberBytes, Text.decode_encode, String.toList_ofList]
  refine modest_configDisk numberBytes ⟨fun bytes cs h hcs => ?_, fun bytes fault h hfault => ?_⟩
    (by decide +kernel)
  · rw [← Except.ok.inj (hread.symm.trans h), hdecode] at hcs
    rw [← Except.ok.inj hcs, Text.unixLines_eq_self numberConfig (by decide)]
    exact modest_numberConfig
  · rw [← Except.ok.inj (hread.symm.trans h), hdecode] at hfault
    exact absurd hfault (by simp only [reduceCtorEq, not_false_eq_true])

end CommandLine

end OpcodeForge
