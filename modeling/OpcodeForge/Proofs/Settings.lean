import OpcodeForge.Proofs.Disk.Spares
import OpcodeForge.Settings.File

/-!
# Settings That Cannot Be Read

Reading settings ends in one of three ways: with settings, with a report about the
configuration, or with a defect. Of the first two the reading itself tells. The defects are
said here by what is in the file, exactly: each step has its own causes (`StopsFor`), and the
causes of a sequence of steps are those of its first step and, once that has succeeded, those of
the rest (`StopsFor.bind`).

The causes are of four kinds. The file may be no text, or hold a value that cannot be built
(`Unread`); a part may be no mapping (`BadPart`); an integer may be too long for the report that
would name it (`LongFlag`); and a path may be no path (`Value.IsPath`). Everything else that is
wrong with a configuration is reported as such.

## Main definitions

* `StopsFor`: An operation has no report exactly for the given causes.
* `Value.IsPath`: A value that leads somewhere from every directory.
* `Settings.Unread`: A file has no value, and no report either.
* `Settings.Unloaded`: Settings cannot be read, and there is no report.

## Theorems

* `StopsFor.bind`: The causes of two steps.
* `stopsFor_readValue`, `stopsFor_part`, `stopsFor_flagsOf`, `stopsFor_ofEntries`,
  `stopsFor_resolve`: The causes of each step.
* `isPath_of_resolve`: Settings from a file have paths that lead somewhere.
* `stopsFor_load`: The causes of a whole file.
-/

namespace OpcodeForge

theorem error_failure_eq_iff {α : Type} (f g : Failure) :
    (Except.error (.failure g) : Except Halt α) = .error (.failure f) ↔ f = g := by
  rw [Except.error.injEq, Halt.failure.injEq, eq_comm]

theorem error_defect_eq_iff {α : Type} (x y : Defect) :
    (Except.error (.defect y) : Except Halt α) = .error (.defect x) ↔ x = y := by
  rw [Except.error.injEq, Halt.defect.injEq, eq_comm]

theorem map_eq_error_iff {α β : Type} (x : Except Halt α) (f : α → β) (stop : Halt) :
    x.map f = .error stop ↔ x = .error stop := by
  cases x <;> simp only [Except.map, Except.error.injEq, reduceCtorEq]

theorem exists_of_bind_eq_ok {α β : Type} {x : Except Halt α} {f : α → Except Halt β} {b : β}
    (h : (x >>= f) = .ok b) : ∃ a, x = .ok a ∧ f a = .ok b := by
  cases x with
  | error stop => exact absurd h (by simp only [bind, Except.bind, reduceCtorEq, not_false_eq_true])
  | ok a => exact ⟨a, rfl, h⟩

/-- An operation that sets a run up reports faults of the configuration only, and it stops
    without a report exactly for the given causes. -/
structure StopsFor {α : Type} (cause : Defect → Prop) (x : Except Halt α) : Prop where
  report : ∀ f, x = .error (.failure f) → ∃ fault, f = .config fault
  defect : ∀ k, x = .error (.defect k) ↔ cause k

namespace StopsFor

variable {α β : Type} {cause cause' : Defect → Prop}

theorem ok (a : α) : StopsFor (fun _ => False) (.ok a : Except Halt α) := by
  constructor
  · intro f h
    exact absurd h (by simp only [reduceCtorEq, not_false_eq_true])
  · intro k
    simp only [reduceCtorEq]

theorem config (fault : ConfigFault) :
    StopsFor (fun _ => False) (.error (.failure (.config fault)) : Except Halt α) := by
  constructor
  · intro f h
    exact ⟨fault, (error_failure_eq_iff f _).mp h⟩
  · intro k
    simp only [Except.error.injEq, reduceCtorEq]

theorem stop (x : Defect) : StopsFor (fun k => k = x) (.error (.defect x) : Except Halt α) := by
  constructor
  · intro f h
    exact absurd h (by simp only [Except.error.injEq, reduceCtorEq, not_false_eq_true])
  · exact fun k => error_defect_eq_iff k x

theorem congr {x : Except Halt α} (h : StopsFor cause x) (hcause : ∀ k, cause k ↔ cause' k) :
    StopsFor cause' x :=
  ⟨h.report, fun k => (h.defect k).trans (hcause k)⟩

/-- What stops the second step counts only once the first one has succeeded. -/
theorem bind {x : Except Halt α} {f : α → Except Halt β} {rest : α → Defect → Prop}
    (hx : StopsFor cause x) (hf : ∀ a, x = .ok a → StopsFor (rest a) (f a)) :
    StopsFor (fun k => cause k ∨ ∃ a, x = .ok a ∧ rest a k) (x >>= f) := by
  cases x with
  | error stop =>
      -- The second step is not reached, so its causes do not count.
      have hbind : (Except.error stop >>= f) = .error stop := rfl
      constructor
      · intro g h
        rw [hbind, Except.error.injEq] at h
        exact hx.report g (by rw [h])
      · intro k
        simp only [hbind, reduceCtorEq, false_and, exists_false, or_false]
        rw [← hx.defect k, Except.error.injEq, Except.error.injEq]
  | ok a =>
      have hbind : (Except.ok a >>= f) = f a := rfl
      -- A step that has succeeded had no cause to stop.
      have hnone : ∀ k, ¬cause k := fun k hk =>
        absurd ((hx.defect k).mpr hk) (by simp only [reduceCtorEq, not_false_eq_true])
      constructor
      · intro g h
        exact (hf a rfl).report g h
      · intro k
        simp only [hbind, hnone k, false_or, Except.ok.injEq, exists_eq_left']
        exact (hf a rfl).defect k

theorem map {x : Except Halt α} (hx : StopsFor cause x) (f : α → β) :
    StopsFor cause (x.map f) :=
  ⟨fun g h => hx.report g ((map_eq_error_iff x f _).mp h),
    fun k => (map_eq_error_iff x f _).trans (hx.defect k)⟩

end StopsFor

/-- A value that leads somewhere from every directory: a text, or bytes from the root on. -/
def Value.IsPath (v : Value) : Prop :=
  (∃ s, v = .text s) ∨ ∃ bs, v = .bytes bs ∧ bs.head? = some 47

theorem Value.IsPath.exists_diskPath {v : Value} (h : v.IsPath) : ∃ p, v.diskPath? = some p := by
  rcases h with ⟨s, rfl⟩ | ⟨bs, rfl, -⟩
  · exact ⟨s, rfl⟩
  · cases hdecode : Text.decode bs with
    | error f => exact ⟨"", by simp only [diskPath?, hdecode]⟩
    | ok cs => exact ⟨String.ofList cs, by simp only [diskPath?, hdecode]⟩

namespace Settings

/-- A file at a path has no value, and there is no report of it. -/
inductive Unread (d : Disk) (p : String) : Defect → Prop
  | badPath (hnul : p.toList.contains '\x00' = true) : Unread d p .badPath
  | notText (bytes : List UInt8) (fault : Text.DecodeFault) (hread : d.read p = .ok bytes)
      (hdecode : Text.decode bytes = .error fault) : Unread d p (.notText fault)
  | value (bytes : List UInt8) (cs : List Char) (fault : Yaml.Fault)
      (hread : d.read p = .ok bytes) (hdecode : Text.decode bytes = .ok cs)
      (hload : Yaml.load (Text.unixLines cs) = .error fault) (hfault : fault ≠ .malformed) :
      Unread d p (.value fault)

theorem stopsFor_valueOf (path : Value) (cs : List Char) :
    StopsFor (fun x => ∃ fault, Yaml.load (Text.unixLines cs) = .error fault ∧
      fault ≠ .malformed ∧ x = .value fault) (valueOf path cs) := by
  unfold valueOf
  cases Yaml.load (Text.unixLines cs) with
  | ok v => exact (StopsFor.ok v).congr (by simp)
  | error fault =>
      cases fault with
      | malformed => exact (StopsFor.config _).congr (by simp)
      | _ => exact (StopsFor.stop _).congr (by simp)

theorem unread_iff (d : Disk) (p : String) (x : Defect) : Unread d p x ↔
    (p.toList.contains '\x00' = true ∧ x = .badPath) ∨ ∃ bytes, d.read p = .ok bytes ∧
      ((∃ fault, Text.decode bytes = .error fault ∧ x = .notText fault) ∨
        ∃ cs, Text.decode bytes = .ok cs ∧ ∃ fault, Yaml.load (Text.unixLines cs) = .error fault ∧
          fault ≠ .malformed ∧ x = .value fault) := by
  constructor
  · intro h
    cases h with
    | badPath hnul => exact Or.inl ⟨hnul, rfl⟩
    | notText bytes fault hread hdecode =>
        exact Or.inr ⟨bytes, hread, Or.inl ⟨fault, hdecode, rfl⟩⟩
    | value bytes cs fault hread hdecode hload hfault =>
        exact Or.inr ⟨bytes, hread, Or.inr ⟨cs, hdecode, fault, hload, hfault, rfl⟩⟩
  · rintro (⟨hnul, rfl⟩ | ⟨bytes, hread, ⟨fault, hdecode, rfl⟩ | ⟨cs, hdecode, fault, hload⟩⟩)
    · exact .badPath hnul
    · exact .notText bytes fault hread hdecode
    · rcases hload with ⟨hload, hfault, rfl⟩
      exact .value bytes cs fault hread hdecode hload hfault

/-- A file that is there is read, unless it is no text or its value cannot be built. -/
theorem stopsFor_readValue (unreadable : String → String → Disk.Fault → ConfigFault) (d : Disk)
    (v : Value) (p : String) (hp : v.diskPath? = some p) :
    StopsFor (Unread d p) (readValue unreadable d v) := by
  have hnul := d.read_eq_badName_iff p
  unfold readValue
  rw [hp]
  dsimp only
  cases hread : d.read p with
  | error fault =>
      -- Of all faults of a file, a name that no file can have is the only one without a report.
      have hunread : ∀ x, Unread d p x ↔ fault = .badName ∧ x = .badPath := by
        intro x
        rw [unread_iff, ← hnul, hread]
        simp only [Except.error.injEq, reduceCtorEq, false_and, exists_false, or_false]
      cases fault with
      | badName => exact (StopsFor.stop .badPath).congr fun x => by simp only [hunread, true_and]
      | _ => exact (StopsFor.config _).congr fun x => by simp only [hunread, reduceCtorEq, false_and]
  | ok bytes =>
      have hunread : ∀ x, Unread d p x ↔ _ := fun x => unread_iff d p x
      simp only [← hnul, hread, reduceCtorEq, false_and, false_or, Except.ok.injEq,
        exists_eq_left'] at hunread
      dsimp only
      cases hdecode : Text.decode bytes with
      | error fault =>
          refine (StopsFor.stop (.notText fault)).congr fun x => ?_
          simp only [hunread, hdecode, Except.error.injEq, exists_eq_left', reduceCtorEq,
            false_and, exists_false, or_false]
      | ok cs =>
          refine (stopsFor_valueOf v cs).congr fun x => ?_
          simp only [hunread, hdecode, reduceCtorEq, false_and, exists_false, false_or,
            Except.ok.injEq, exists_eq_left']

/-- A part of the configuration that is no mapping, although it is neither empty nor zero. -/
def BadPart (entries : List (Value × Value)) (name : String) : Prop :=
  ∃ v, Value.lookup entries name = some v ∧ v.isTruthy = true ∧ v.entries? = none

theorem stopsFor_part (entries : List (Value × Value)) (name : String) :
    StopsFor (fun x => BadPart entries name ∧ x = .notAMapping) (part entries name) := by
  unfold part BadPart
  cases Value.lookup entries name with
  | none => exact (StopsFor.ok _).congr fun x => by simp
  | some v =>
      dsimp only
      cases htruthy : v.isTruthy with
      | false => exact (StopsFor.ok _).congr fun x => by simp [htruthy]
      | true =>
          cases hentries : v.entries? with
          | some es => exact (StopsFor.ok es).congr fun x => by simp [hentries]
          | none => exact (StopsFor.stop .notAMapping).congr fun x => by simp [htruthy, hentries]

/-- Whether an entry sets the flag of a mode. -/
def setsFlag (e : Value × Value) : Bool :=
  match e.2 with
  | .bool _ => e.1.isWritable
  | _ => false

/-- The first entry that sets no flag holds an integer that is too long, so the report about it
    has no text. -/
def LongFlag (entries : List (Value × Value)) : Prop :=
  ∃ e, entries.find? (fun e => !setsFlag e) = some e ∧
    (e.1.isWritable && e.2.isWritable) = false

theorem stopsFor_flagOf (label flag : Value) :
    StopsFor (fun x => (label.isWritable && flag.isWritable) = false ∧ x = .numberTooLong)
      (flagOf label flag) := by
  cases hflag : flag with
  | bool b =>
      have hwritable : (Value.bool b).isWritable = true := rfl
      unfold flagOf
      cases label.isWritable with
      | true => exact (StopsFor.ok _).congr fun x => by simp [hwritable]
      | false => exact (StopsFor.stop _).congr fun x => by simp
  | _ =>
      unfold flagOf
      dsimp only
      split
      · rename_i hboth
        exact (StopsFor.config _).congr fun x => by simp [hboth]
      · rename_i hnot
        exact (StopsFor.stop _).congr fun x => by
          simp only [Bool.eq_false_iff.mpr hnot, true_and]

theorem flagOf_eq_ok_iff (label flag : Value) :
    (∃ x, flagOf label flag = .ok x) ↔ setsFlag (label, flag) = true := by
  unfold flagOf setsFlag
  cases flag with
  | bool b => cases label.isWritable <;> simp
  | _ =>
      dsimp only
      split <;> simp

theorem stopsFor_flagsOf (entries : List (Value × Value)) : ∀ flags,
    StopsFor (fun x => LongFlag entries ∧ x = .numberTooLong) (flagsOf flags entries) := by
  induction entries with
  | nil => exact fun flags => (StopsFor.ok flags).congr fun x => by simp [LongFlag]
  | cons e rest ih =>
      intro flags
      have hsets := flagOf_eq_ok_iff e.1 e.2
      refine ((stopsFor_flagOf e.1 e.2).bind fun a _ => ih (setFlag a.1 a.2 flags)).congr
        fun x => ?_
      have hlong : LongFlag (e :: rest) ↔ (setsFlag e = false ∧
          (e.1.isWritable && e.2.isWritable) = false) ∨ (setsFlag e = true ∧ LongFlag rest) := by
        unfold LongFlag
        rw [List.find?_cons]
        cases setsFlag e <;> simp
      -- An entry that sets a flag has a text, so it is not the one that stops the reading.
      have hwritable : setsFlag e = true → (e.1.isWritable && e.2.isWritable) = true := by
        unfold setsFlag
        cases e.2 <;> simp [Value.isWritable]
      rw [hlong, exists_and_right, hsets]
      cases hflag : setsFlag e with
      | false => simp
      | true => simp [hwritable hflag]

/-- The parts of a configuration that must be mappings. -/
def partNames : List String := ["headings", "output", "modes"]

/-- What keeps the entries of a configuration from being settings, if there is no report. -/
inductive BadEntries (entries : List (Value × Value)) : Defect → Prop
  | part (name : String) (hname : name ∈ partNames) (hbad : BadPart entries name) :
      BadEntries entries .notAMapping
  | flag (modes : List (Value × Value)) (hparts : ∀ name ∈ partNames, ¬BadPart entries name)
      (hmodes : part entries "modes" = .ok modes) (hlong : LongFlag modes) :
      BadEntries entries .numberTooLong

theorem part_eq_ok_iff (entries : List (Value × Value)) (name : String) :
    (∃ es, part entries name = .ok es) ↔ ¬BadPart entries name := by
  have hstops := stopsFor_part entries name
  cases hpart : part entries name with
  | ok es =>
      refine ⟨fun _ hbad => ?_, fun _ => ⟨es, rfl⟩⟩
      exact absurd ((hstops.defect _).mpr ⟨hbad, rfl⟩) (by
        simp only [hpart, reduceCtorEq, not_false_eq_true])
  | error h =>
      cases h with
      | defect x =>
          have hbad := ((hstops.defect x).mp hpart).1
          simp only [reduceCtorEq, exists_false, hbad, not_true_eq_false]
      | failure f =>
          -- A part that is no mapping is the only thing that can be wrong with it.
          unfold part at hpart
          split at hpart
          · cases hpart
          · split at hpart
            · cases hpart
            · split at hpart <;> cases hpart

theorem badEntries_iff (entries : List (Value × Value)) (x : Defect) :
    BadEntries entries x ↔ (BadPart entries "headings" ∧ x = .notAMapping) ∨
      ∃ a, part entries "headings" = .ok a ∧ ((BadPart entries "output" ∧ x = .notAMapping) ∨
        ∃ b, part entries "output" = .ok b ∧ ((BadPart entries "modes" ∧ x = .notAMapping) ∨
          ∃ modes, part entries "modes" = .ok modes ∧ LongFlag modes ∧ x = .numberTooLong)) := by
  have hheadings := part_eq_ok_iff entries "headings"
  have houtput := part_eq_ok_iff entries "output"
  have hmodes := part_eq_ok_iff entries "modes"
  rw [exists_and_right, exists_and_right, hheadings, houtput]
  constructor
  · intro h
    cases h with
    | part name hname hbad =>
        simp only [partNames, List.mem_cons, List.not_mem_nil, or_false] at hname
        rcases hname with rfl | rfl | rfl
        · exact Or.inl ⟨hbad, rfl⟩
        · by_cases hh : BadPart entries "headings"
          · exact Or.inl ⟨hh, rfl⟩
          · exact Or.inr ⟨hh, Or.inl ⟨hbad, rfl⟩⟩
        · by_cases hh : BadPart entries "headings"
          · exact Or.inl ⟨hh, rfl⟩
          · by_cases ho : BadPart entries "output"
            · exact Or.inr ⟨hh, Or.inl ⟨ho, rfl⟩⟩
            · exact Or.inr ⟨hh, Or.inr ⟨ho, Or.inl ⟨hbad, rfl⟩⟩⟩
    | flag modes hparts hpart hlong =>
        exact Or.inr ⟨hparts _ (by simp [partNames]), Or.inr ⟨hparts _ (by simp [partNames]),
          Or.inr ⟨modes, hpart, hlong, rfl⟩⟩⟩
  · rintro (⟨hbad, rfl⟩ | ⟨hh, ⟨hbad, rfl⟩ | ⟨ho, ⟨hbad, rfl⟩ | ⟨modes, hpart, hlong, rfl⟩⟩⟩)
    · exact .part _ (by simp [partNames]) hbad
    · exact .part _ (by simp [partNames]) hbad
    · exact .part _ (by simp [partNames]) hbad
    · refine .flag modes (fun name hname => ?_) hpart hlong
      simp only [partNames, List.mem_cons, List.not_mem_nil, or_false] at hname
      rcases hname with rfl | rfl | rfl
      · exact hh
      · exact ho
      · exact hmodes.mp ⟨modes, hpart⟩

theorem stopsFor_ofEntries (entries : List (Value × Value)) :
    StopsFor (BadEntries entries) (ofEntries entries) := by
  unfold ofEntries
  refine StopsFor.congr ?_ fun x => (badEntries_iff entries x).symm
  refine (stopsFor_part entries "headings").bind fun headings _ => ?_
  refine (stopsFor_part entries "output").bind fun output _ => ?_
  refine (stopsFor_part entries "modes").bind fun modes _ => ?_
  exact ((stopsFor_flagsOf modes []).bind fun _ _ => StopsFor.ok _).congr fun x => by simp

/-- The paths of settings. Without a reference there is no path of one. -/
def paths (s : Settings) : List Value :=
  [s.specDirectory, s.instructionsPath, s.dispatchPath]
    ++ if s.referenceFile.isTruthy then [s.referenceFile] else []

theorem forall_mem_paths_iff (s : Settings) (holds : Value → Prop) :
    (∀ v ∈ s.paths, holds v) ↔ holds s.specDirectory ∧ holds s.instructionsPath ∧
      holds s.dispatchPath ∧ (s.referenceFile.isTruthy = true → holds s.referenceFile) := by
  unfold paths
  cases s.referenceFile.isTruthy <;> simp

theorem resolvePath_cases (base : String) (v : Value) :
    (v.IsPath ∧ ∃ w, resolvePath base v = .ok w ∧ w.IsPath) ∨
      (¬v.IsPath ∧ resolvePath base v = .error (.defect .notAPath)) := by
  cases v with
  | text s => exact Or.inl ⟨Or.inl ⟨s, rfl⟩, _, rfl, Or.inl ⟨_, rfl⟩⟩
  | bytes bs =>
      by_cases hroot : bs.head? = some 47
      · refine Or.inl ⟨Or.inr ⟨bs, rfl, hroot⟩, .bytes bs, ?_, Or.inr ⟨bs, rfl, hroot⟩⟩
        simp only [resolvePath, hroot, if_true]
      · refine Or.inr ⟨?_, by simp only [resolvePath, hroot, if_false]⟩
        rintro (⟨s, hs⟩ | ⟨bs', hbs, hroot'⟩)
        · cases hs
        · cases hbs
          exact hroot hroot'
  | _ =>
      refine Or.inr ⟨?_, rfl⟩
      rintro (⟨s, hs⟩ | ⟨bs, hbs, -⟩)
      · cases hs
      · cases hbs

theorem stopsFor_resolvePath (base : String) (v : Value) :
    StopsFor (fun x => ¬v.IsPath ∧ x = .notAPath) (resolvePath base v) := by
  rcases resolvePath_cases base v with ⟨hpath, w, hw, -⟩ | ⟨hno, hw⟩
  · rw [hw]
    exact (StopsFor.ok w).congr fun x => by simp only [hpath, not_true_eq_false, false_and]
  · rw [hw]
    exact (StopsFor.stop _).congr fun x => by simp only [hno, not_false_eq_true, true_and]

theorem resolvePath_eq_ok_iff (base : String) (v : Value) :
    (∃ w, resolvePath base v = .ok w) ↔ v.IsPath := by
  rcases resolvePath_cases base v with ⟨hpath, w, hw, -⟩ | ⟨hno, hw⟩
  · simp only [hw, hpath, Except.ok.injEq, exists_eq']
  · simp only [hw, hno, reduceCtorEq, exists_false]

theorem isPath_of_resolvePath (base : String) (v w : Value) (h : resolvePath base v = .ok w) :
    v.IsPath ∧ w.IsPath := by
  rcases resolvePath_cases base v with ⟨hpath, w', hw, hpath'⟩ | ⟨-, hw⟩
  · rw [h, Except.ok.injEq] at hw
    exact ⟨hpath, hw ▸ hpath'⟩
  · rw [h] at hw
    exact absurd hw (by simp only [reduceCtorEq, not_false_eq_true])

/-- The path of the reference, if there is one, as seen from a directory. -/
def resolveReference (s : Settings) (base : String) : Except Halt Value :=
  if s.referenceFile.isTruthy then resolvePath base s.referenceFile else .ok s.referenceFile

theorem resolve_eq (s : Settings) (base : String) : s.resolve base =
    (resolvePath base s.specDirectory >>= fun specDirectory =>
      resolvePath base s.instructionsPath >>= fun instructionsPath =>
      resolvePath base s.dispatchPath >>= fun dispatchPath =>
      s.resolveReference base >>= fun referenceFile =>
      .ok ⟨specDirectory, s.headings, instructionsPath, dispatchPath, referenceFile, s.modes⟩) := by
  unfold resolve resolveReference
  cases s.referenceFile.isTruthy <;> rfl

theorem stopsFor_resolveReference (s : Settings) (base : String) :
    StopsFor (fun x => (s.referenceFile.isTruthy = true ∧ ¬s.referenceFile.IsPath) ∧
      x = .notAPath) (s.resolveReference base) := by
  unfold resolveReference
  cases s.referenceFile.isTruthy with
  | true => exact (stopsFor_resolvePath base _).congr fun x => by simp only [true_and]
  | false =>
      exact (StopsFor.ok _).congr fun x => by simp only [Bool.false_eq_true, false_and]

theorem stopsFor_resolve (s : Settings) (base : String) :
    StopsFor (fun x => (∃ v ∈ s.paths, ¬v.IsPath) ∧ x = .notAPath) (s.resolve base) := by
  rw [resolve_eq]
  refine StopsFor.congr ((stopsFor_resolvePath base s.specDirectory).bind fun _ _ =>
    (stopsFor_resolvePath base s.instructionsPath).bind fun _ _ =>
    (stopsFor_resolvePath base s.dispatchPath).bind fun _ _ =>
    (stopsFor_resolveReference s base).bind fun _ _ => StopsFor.ok _) fun x => ?_
  simp only [and_false, exists_false, or_false, exists_and_right, resolvePath_eq_ok_iff]
  have hpaths : (∃ v ∈ s.paths, ¬v.IsPath) ↔ ¬s.specDirectory.IsPath ∨
      ¬s.instructionsPath.IsPath ∨ ¬s.dispatchPath.IsPath ∨
        (s.referenceFile.isTruthy = true ∧ ¬s.referenceFile.IsPath) := by
    unfold paths
    cases s.referenceFile.isTruthy <;> simp
  rw [hpaths]
  grind

theorem isPath_of_resolve (s s' : Settings) (base : String) (h : s.resolve base = .ok s') :
    ∀ v ∈ s'.paths, v.IsPath := by
  rw [resolve_eq] at h
  rcases exists_of_bind_eq_ok h with ⟨a, ha, h⟩
  rcases exists_of_bind_eq_ok h with ⟨b, hb, h⟩
  rcases exists_of_bind_eq_ok h with ⟨c, hc, h⟩
  rcases exists_of_bind_eq_ok h with ⟨r, hr, h⟩
  rw [← Except.ok.inj h, forall_mem_paths_iff]
  refine ⟨(isPath_of_resolvePath base _ _ ha).2, (isPath_of_resolvePath base _ _ hb).2,
    (isPath_of_resolvePath base _ _ hc).2, fun htruthy => ?_⟩
  unfold resolveReference at hr
  split at hr
  · exact (isPath_of_resolvePath base _ _ hr).2
  · rename_i hfalsy
    exact absurd (Except.ok.inj hr ▸ htruthy) hfalsy

/-- The configuration that a file holds. What is empty, or zero, is as good as an empty
    mapping. -/
def Configures (d : Disk) (path : String) (v : Value) : Prop :=
  ∃ w, readValue .configUnreadable d (.text path) = .ok w ∧
    v = if w.isTruthy then w else .map []

/-- What keeps a file from being read as settings, if there is no report. -/
inductive Unloaded (d : Disk) (path : String) : Defect → Prop
  | file (x : Defect) (h : Unread d path x) : Unloaded d path x
  | entries (v : Value) (es : List (Value × Value)) (x : Defect) (hv : Configures d path v)
      (hes : v.entries? = some es) (h : BadEntries es x) : Unloaded d path x
  | path (v w : Value) (s : Settings) (hv : Configures d path v) (hs : ofValue v = .ok s)
      (hw : w ∈ s.paths) (h : ¬w.IsPath) : Unloaded d path .notAPath

theorem stopsFor_ofValue (v : Value) :
    StopsFor (fun x => ∃ es, v.entries? = some es ∧ BadEntries es x) (ofValue v) := by
  unfold ofValue
  cases v.entries? with
  | none =>
      exact (StopsFor.config _).congr fun x => by
        simp only [reduceCtorEq, false_and, exists_false]
  | some es =>
      exact (stopsFor_ofEntries es).congr fun x => by
        simp only [Option.some.injEq, exists_eq_left']

/-- The report about a configuration file is one about the configuration, and without one the
    reason is known. -/
theorem stopsFor_load (d : Disk) (path : String) :
    StopsFor (Unloaded d path) (load d path) := by
  refine StopsFor.congr ((stopsFor_readValue _ d (.text path) path rfl).bind fun v _ =>
    (stopsFor_ofValue (if v.isTruthy then v else .map [])).bind fun s _ =>
    stopsFor_resolve s _) fun x => ?_
  constructor
  · rintro (h | ⟨w, hw, ⟨es, hes, h⟩ | ⟨s, hs, ⟨v, hv, h⟩, rfl⟩⟩)
    · exact .file x h
    · exact .entries _ es x ⟨w, hw, rfl⟩ hes h
    · exact .path _ v s ⟨w, hw, rfl⟩ hs hv h
  · intro h
    cases h with
    | file x h => exact Or.inl h
    | entries v es x hv hes h =>
        rcases hv with ⟨w, hw, rfl⟩
        exact Or.inr ⟨w, hw, Or.inl ⟨es, hes, h⟩⟩
    | path v w s hv hs hw h =>
        rcases hv with ⟨u, hu, rfl⟩
        exact Or.inr ⟨u, hu, Or.inr ⟨s, hs, ⟨w, hw, h⟩, rfl⟩⟩

theorem isPath_of_load (d : Disk) (path : String) (s : Settings) (h : load d path = .ok s) :
    ∀ v ∈ s.paths, v.IsPath := by
  unfold load at h
  rcases exists_of_bind_eq_ok h with ⟨v, -, h⟩
  rcases exists_of_bind_eq_ok h with ⟨s', -, h⟩
  exact isPath_of_resolve s' s _ h

end Settings

end OpcodeForge
