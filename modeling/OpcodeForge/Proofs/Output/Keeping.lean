import OpcodeForge.Proofs.Output.Staging

/-!
# What a Failed Write Keeps

Both outputs are staged before either is renamed, so that a write that fails should
leave what was stored at their paths. It mostly does, and what it can change is known
exactly (`write_keeps_iff`):

* Directories that are made for one output can let a path through that led nowhere
  before (`Uncovers`). No file is touched by this.
* The temporary file of the first output can be the second output, which is then
  overwritten and taken away (`TakesOutput`).
* If the first output is in place when the second cannot be renamed then it stays
  there, and the log tells that it was written. What is stored at its path is then
  new, unless the same text was there before.

The last one needs no odd names: an output path that ends in a slash can be staged but
not be renamed to.

## Main definitions

* `Output.Uncovers`: A path leads to an old file that it did not lead to before.
* `Output.TakesOutput`: The temporary file of one output is the other output.
* `Output.placed`: What is at the first path once it has been renamed to.
* `Output.BothStaged`: Both texts are in their temporary files.
* `Output.Moved`: The first output is in place.

## Theorems

* `Output.place_failure_cases`: The two ways in which renaming fails.
* `Output.write_failure_cases`: The four ways in which a write fails.
* `Output.stored_eq_iff`: When a path keeps what it had.
* `Output.spares_of_second_error`, `Output.BothStaged.discarded`: What is touched when a
  write fails before anything is in place.
* `Output.write_keeps_iff`: What a failed write keeps.
-/

namespace OpcodeForge.Output

open Disk

/-- A path that led nowhere leads to a file that was there all the time. -/
def Uncovers (d e : Disk) (p : String) : Prop :=
  (∃ f, d.locate p = .error f) ∧ namesDirectory p = false ∧
    ∃ k bs, e.locate p = .ok k ∧ d.get? k = some (.file bs) ∧ e.get? k = some (.file bs)

/-- The first output was staged into a file that is the second output. -/
def TakesOutput (d e : Disk) (p q text : String) : Prop :=
  (∃ staged, (stage d (.text p) text).2 = .ok staged) ∧ (d.stored q).isSome = true ∧
    ∃ k, d.locate q = .ok k ∧ e.locate (temporaryOf p) = .ok k

/-- What is stored at the first path after it has been renamed to and the temporary
    files have been taken away. The second text is found there if both outputs have
    the same temporary file, and nothing if the temporary file of the second is the
    first output. -/
def placed (e : Disk) (p q first second : String) : Option (List UInt8) :=
  if e.locate (temporaryOf q) = e.locate p then none
  else if e.locate (temporaryOf q) = e.locate (temporaryOf p) then some (Text.encode second)
  else some (Text.encode first)

/-- Both texts are in their temporary files, at two locations or at one. -/
structure BothStaged (d e : Disk) (p q first second : String) (k l : Location) : Prop where
  spares : Spares [k, l] d e
  locate_first : e.locate (temporaryOf p) = .ok k
  locate_second : e.locate (temporaryOf q) = .ok l
  get_first : e.get? k = some (.file (Text.encode (if k = l then second else first)))
  get_second : e.get? l = some (.file (Text.encode second))

theorem bothStaged_of_stage (d d' e : Disk) (p q first second : String) (a b : Staged)
    (ha : stage d (.text p) first = (d', .ok a))
    (hb : stage d' (.text q) second = (e, .ok b)) :
    ∃ k l, BothStaged d e p q first second k l := by
  rcases stage_ok d d' p first a ha with ⟨-, k, hk, hspares, hget⟩
  rcases stage_ok d' e q second b hb with ⟨-, l, hl, hspares', hget'⟩
  refine ⟨k, l, hspares.trans [k] [l] d d' e hspares', hspares'.locate [l] d' e _ k hk, hl, ?_,
    hget'⟩
  by_cases hkl : k = l
  · rw [if_pos hkl, hkl]
    exact hget'
  · rw [if_neg hkl]
    exact (hspares'.file k (by simpa only [List.mem_singleton] using hkl) _).mpr hget

/-- Two staged files fail to be renamed at the first or at the second. Only then has the
    log a line, for the file that is in place. -/
theorem place_failure_cases (d e : Disk) (a b : Staged) (log : List Log.Line) (x : Halt)
    (h : place [a, b] d [a, b] = ⟨e, log, .error x⟩) :
    ((∃ f, d.rename a.temporary a.target = .error f) ∧
      e = removeIfThere (removeIfThere d a.temporary) b.temporary ∧ log = []) ∨
    ∃ d', d.rename a.temporary a.target = .ok d' ∧
      (∃ f, d'.rename b.temporary b.target = .error f) ∧
      e = removeIfThere (removeIfThere d' a.temporary) b.temporary ∧ log ≠ [] := by
  rw [place] at h
  cases hfirst : d.rename a.temporary a.target with
  | error f =>
      simp only [hfirst, discard, List.foldl_cons, List.foldl_nil, Outcome.mk.injEq] at h
      exact Or.inl ⟨⟨f, rfl⟩, h.1.symm, h.2.1.symm⟩
  | ok d' =>
      simp only [hfirst] at h
      rw [place] at h
      cases hsecond : d'.rename b.temporary b.target with
      | error f =>
          simp only [hsecond, discard, List.foldl_cons, List.foldl_nil, Outcome.mk.injEq] at h
          have hlog : log ≠ [] := by
            rw [← h.2.1]
            exact List.cons_ne_nil _ _
          exact Or.inr ⟨d', rfl, ⟨f, hsecond⟩, h.1.symm, hlog⟩
      | ok d'' =>
          simp only [hsecond, place, Outcome.mk.injEq, reduceCtorEq, and_false] at h

/-- The four ways in which a write fails: a text cannot be staged, or a staged file
    cannot be renamed. Only in the last one has the log a line. -/
theorem write_failure_cases (d e : Disk) (p q first second : String) (log : List Log.Line)
    (f : Failure) (h : write d (.text p) (.text q) first second = ⟨e, log, .error (.failure f)⟩) :
    (stage d (.text p) first = (e, .error (.failure f)) ∧ log = []) ∨
    (∃ d' a d'', stage d (.text p) first = (d', .ok a) ∧
      stage d' (.text q) second = (d'', .error (.failure f)) ∧
      e = removeIfThere d'' (temporaryOf p) ∧ log = []) ∨
    ∃ d' a d'' b, stage d (.text p) first = (d', .ok a) ∧
      stage d' (.text q) second = (d'', .ok b) ∧
      (((∃ x, d''.rename (temporaryOf p) p = .error x) ∧
        e = removeIfThere (removeIfThere d'' (temporaryOf p)) (temporaryOf q) ∧ log = []) ∨
      ∃ d₃, d''.rename (temporaryOf p) p = .ok d₃ ∧
        (∃ x, d₃.rename (temporaryOf q) q = .error x) ∧
        e = removeIfThere (removeIfThere d₃ (temporaryOf p)) (temporaryOf q) ∧ log ≠ []) := by
  unfold write writeAll at h
  rw [stageAll] at h
  rcases ha : stage d (.text p) first with ⟨d', (f' | x) | a⟩
  · rw [ha] at h
    simp only [discard, List.foldl_nil, Outcome.mk.injEq, Except.error.injEq,
      Halt.failure.injEq] at h
    rcases h with ⟨rfl, rfl, rfl⟩
    exact Or.inl ⟨rfl, rfl⟩
  · rw [ha] at h
    simp only [Outcome.mk.injEq, Except.error.injEq, reduceCtorEq, and_false] at h
  · rw [ha] at h
    rcases stage_ok d d' p first a ha with ⟨rfl, -⟩
    simp only [stageAll, List.nil_append, List.singleton_append] at h
    rcases hb : stage d' (.text q) second with ⟨d'', (f' | x) | b⟩
    · simp only [hb, discard, List.foldl_cons, List.foldl_nil, Outcome.mk.injEq,
        Except.error.injEq, Halt.failure.injEq] at h
      rcases h with ⟨rfl, rfl, rfl⟩
      exact Or.inr (Or.inl ⟨d', _, d'', rfl, hb, rfl, rfl⟩)
    · simp only [hb, Outcome.mk.injEq, Except.error.injEq, reduceCtorEq, and_false] at h
    · simp only [hb] at h
      rcases stage_ok d' d'' q second b hb with ⟨rfl, -⟩
      have hplace := place_failure_cases d'' e ⟨temporaryOf p, p⟩ ⟨temporaryOf q, q⟩ log _ h
      exact Or.inr (Or.inr ⟨d', _, d'', _, rfl, hb, hplace⟩)

theorem stored_of_locate (d : Disk) (p : String) (k : Location) (hk : d.locate p = .ok k)
    (hp : namesDirectory p = false) (bs : List UInt8) :
    d.stored p = some bs ↔ d.get? k = some (.file bs) := by
  rw [stored_eq_some_iff]
  constructor
  · rintro ⟨k', hk', hget, -⟩
    rw [hk, Except.ok.injEq] at hk'
    rw [hk']
    exact hget
  · exact fun hget => ⟨k, hk, hget, hp⟩

theorem stored_eq_none_of_get? (d : Disk) (p : String) (k : Location) (hk : d.locate p = .ok k)
    (hget : d.get? k = none) : d.stored p = none := by
  rw [Option.eq_none_iff_forall_ne_some]
  intro bs hbs
  rcases (stored_eq_some_iff d p bs).mp hbs with ⟨k', hk', hget', -⟩
  rw [hk, Except.ok.injEq] at hk'
  rw [← hk', hget] at hget'
  exact absurd hget' (by simp only [reduceCtorEq, not_false_eq_true])

/-- A path that comes to lead to a file has not kept what it had. -/
theorem not_uncovers_of_stored_eq (d e : Disk) (p : String) (h : e.stored p = d.stored p) :
    ¬Uncovers d e p := by
  rintro ⟨⟨f, hf⟩, hp, k, bs, hk, -, hget⟩
  have hstored := (stored_of_locate e p k hk hp bs).mpr hget
  rw [h] at hstored
  rcases (stored_eq_some_iff d p bs).mp hstored with ⟨k', hk', -⟩
  rw [hf] at hk'
  exact absurd hk' (by simp only [reduceCtorEq, not_false_eq_true])

/-- Where a file is stored that was there before, it was stored at the same path,
    unless the path led nowhere. -/
theorem stored_of_stored (d e : Disk) (t : List Location) (h : Spares t d e) (p : String)
    (k : Location) (bs : List UInt8) (hk : e.locate p = .ok k) (hp : namesDirectory p = false)
    (hget : d.get? k = some (.file bs)) (hget' : e.get? k = some (.file bs))
    (hnot : ¬Uncovers d e p) : d.stored p = some bs := by
  cases hd : d.locate p with
  | error f => exact absurd ⟨⟨f, hd⟩, hp, k, bs, hk, hget, hget'⟩ hnot
  | ok k' =>
      have hkk : k = k' := Except.ok.inj (hk.symm.trans (h.locate t d e p k' hd))
      rw [stored_of_locate d p k' hd hp, ← hkk]
      exact hget

/-- If nothing is left where files were touched, then a path keeps what it had unless
    its own file was touched or it leads to another one now. -/
theorem stored_eq_iff (d e : Disk) (t : List Location) (h : Spares t d e)
    (hgone : ∀ k ∈ t, e.get? k = none) (p : String) : e.stored p = d.stored p ↔
      ¬Uncovers d e p ∧ ¬((d.stored p).isSome = true ∧ ∃ k ∈ t, d.locate p = .ok k) := by
  constructor
  · refine fun hkeep => ⟨not_uncovers_of_stored_eq d e p hkeep, ?_⟩
    rintro ⟨hsome, k, hmem, hk⟩
    rw [← hkeep, stored_eq_none_of_get? e p k (h.locate t d e p k hk) (hgone k hmem)] at hsome
    exact absurd hsome (by decide)
  · rintro ⟨hnot, htouched⟩
    cases hd : d.stored p with
    | some bs =>
        rcases (stored_eq_some_iff d p bs).mp hd with ⟨k, hk, hget, hp⟩
        have hmem : k ∉ t := fun hmem => htouched ⟨by rw [hd]; rfl, k, hmem, hk⟩
        rw [stored_of_locate e p k (h.locate t d e p k hk) hp, h.file k hmem]
        exact hget
    | none =>
        cases he : e.stored p with
        | none => rfl
        | some bs =>
            rcases (stored_eq_some_iff e p bs).mp he with ⟨k, hk, hget, hp⟩
            have hmem : k ∉ t := fun hmem =>
              absurd ((hgone k hmem).symm.trans hget)
                (by simp only [reduceCtorEq, not_false_eq_true])
            have hold := (h.file k hmem bs).mp hget
            rw [← stored_of_stored d e t h p k bs hk hp hold hget hnot, hd]

/-- The temporary file of an output is not the output. -/
theorem ne_temporary_of_stored (d e : Disk) (t : List Location) (h : Spares t d e) (p : String)
    (k l : Location) (hsome : (d.stored p).isSome = true) (hk : d.locate p = .ok k)
    (hl : e.locate (temporaryOf p) = .ok l) : k ≠ l := by
  rcases Option.isSome_iff_exists.mp hsome with ⟨bs, hbs⟩
  rcases (stored_eq_some_iff d p bs).mp hbs with ⟨-, -, -, hp⟩
  exact ne_of_locate_temporary e p k l (h.locate t d e p k hk) hp hl

/-- The outputs are kept by what touches only the temporary files, unless that of the
    first is the second output. -/
theorem keeps_iff_of_gone (d e : Disk) (p q first : String) (k : Location) (t : List Location)
    (h : Spares t d e) (hgone : ∀ x ∈ t, e.get? x = none)
    (hstaged : ∃ staged, (stage d (.text p) first).2 = .ok staged)
    (hlocate : e.locate (temporaryOf p) = .ok k) (hk : k ∈ t)
    (hother : ∀ x ∈ t, x = k ∨ e.locate (temporaryOf q) = .ok x ∧ d.stored p = none) :
    (e.stored p = d.stored p ∧ e.stored q = d.stored q) ↔
      ¬Uncovers d e p ∧ ¬Uncovers d e q ∧ ¬TakesOutput d e p q first := by
  have hp : ¬((d.stored p).isSome = true ∧ ∃ x ∈ t, d.locate p = .ok x) := by
    rintro ⟨hsome, x, hmem, hx⟩
    rcases hother x hmem with rfl | ⟨-, hnone⟩
    · exact ne_temporary_of_stored d e t h p x x hsome hx hlocate rfl
    · rw [hnone] at hsome
      exact absurd hsome (by decide)
  have hq : ((d.stored q).isSome = true ∧ ∃ x ∈ t, d.locate q = .ok x)
      ↔ TakesOutput d e p q first := by
    constructor
    · rintro ⟨hsome, x, hmem, hx⟩
      rcases hother x hmem with rfl | ⟨hx', -⟩
      · exact ⟨hstaged, hsome, x, hx, hlocate⟩
      · exact absurd rfl (ne_temporary_of_stored d e t h q x x hsome hx hx')
    · rintro ⟨-, hsome, x, hx, hx'⟩
      have hkx : k = x := Except.ok.inj (hlocate.symm.trans hx')
      exact ⟨hsome, k, hk, hkx ▸ hx⟩
  rw [stored_eq_iff d e t h hgone p, stored_eq_iff d e t h hgone q, hq]
  constructor
  · exact fun ⟨hp', hq'⟩ => ⟨hp'.1, hq'.1, hq'.2⟩
  · exact fun ⟨hp', hq', htakes⟩ => ⟨⟨hp', hp⟩, hq', htakes⟩

/-- When the first text cannot be staged. -/
theorem keeps_iff_of_first_error (d e : Disk) (p q first : String) (x : Halt)
    (h : stage d (.text p) first = (e, .error x)) :
    (e.stored p = d.stored p ∧ e.stored q = d.stored q) ↔
      ¬Uncovers d e p ∧ ¬Uncovers d e q ∧ ¬TakesOutput d e p q first := by
  have hspares := stage_failure d e p first x h
  have htakes : ¬TakesOutput d e p q first := by
    rintro ⟨⟨staged, hstaged⟩, -⟩
    rw [h] at hstaged
    exact absurd hstaged (by simp only [reduceCtorEq, not_false_eq_true])
  rw [stored_eq_iff d e [] hspares (fun k hk => absurd hk List.not_mem_nil) p,
    stored_eq_iff d e [] hspares (fun k hk => absurd hk List.not_mem_nil) q]
  simp only [List.not_mem_nil, false_and, exists_false, and_false, not_false_eq_true, and_true,
    htakes]

/-- When the second text cannot be staged, the temporary file of the first is taken away
    and nothing else is touched. -/
theorem spares_of_second_error (d d' d'' : Disk) (p q first second : String) (a : Staged)
    (x : Halt) (ha : stage d (.text p) first = (d', .ok a))
    (hb : stage d' (.text q) second = (d'', .error x)) (e : Disk)
    (he : e = removeIfThere d'' (temporaryOf p)) :
    ∃ k, e.locate (temporaryOf p) = .ok k ∧ Spares [k] d e ∧ e.get? k = none := by
  rcases stage_ok d d' p first a ha with ⟨-, k, hk, hspares, hget⟩
  have hspares' := stage_failure d' d'' q second x hb
  have hk' := hspares'.locate [] d' d'' _ k hk
  have hget' := (hspares'.file k List.not_mem_nil _).mpr hget
  have hdir := ne_directory_of_file d'' k _ hget'
  have hremove := spares_removeIfThere d'' _ k hk' (namesDirectory_temporaryOf p) hdir
  rw [← he] at hremove
  have hall := (hspares.trans [k] [] d d' d'' hspares').trans _ [k] d d'' e hremove
  refine ⟨k, hremove.locate [k] d'' e _ k hk', hall.mono _ _ d e ?_, ?_⟩
  · simp only [List.append_nil, List.singleton_append, List.mem_cons, List.not_mem_nil, or_false,
      or_self, imp_self, implies_true]
  · rw [he, get?_removeIfThere d'' _ k k hk' (namesDirectory_temporaryOf p) hdir, if_pos rfl]

theorem keeps_iff_of_second_error (d d' d'' : Disk) (p q first second : String) (a : Staged)
    (x : Halt) (ha : stage d (.text p) first = (d', .ok a))
    (hb : stage d' (.text q) second = (d'', .error x)) (e : Disk)
    (he : e = removeIfThere d'' (temporaryOf p)) :
    (e.stored p = d.stored p ∧ e.stored q = d.stored q) ↔
      ¬Uncovers d e p ∧ ¬Uncovers d e q ∧ ¬TakesOutput d e p q first := by
  rcases spares_of_second_error d d' d'' p q first second a x ha hb e he with
    ⟨k, hk, hspares, hgone⟩
  refine keeps_iff_of_gone d e p q first k [k] hspares (fun y hy => ?_) ⟨a, by rw [ha]⟩ hk
    (List.mem_singleton_self k) fun y hy => Or.inl (List.mem_singleton.mp hy)
  rw [List.mem_singleton.mp hy]
  exact hgone

theorem BothStaged.get?_ne_directory (d e : Disk) (p q first second : String) (k l : Location)
    (h : BothStaged d e p q first second k l) (m : Location) (hm : m = k ∨ m = l) :
    e.get? m ≠ some .directory := by
  rcases hm with rfl | rfl
  · exact ne_directory_of_file e m _ h.get_first
  · exact ne_directory_of_file e m _ h.get_second

/-- What was a file before is not a directory afterwards. -/
theorem BothStaged.not_directory_of_file (d e : Disk) (p q first second : String)
    (k l : Location) (h : BothStaged d e p q first second k l) (m : Location) (bs : List UInt8)
    (hm : d.get? m = some (.file bs)) : e.get? m ≠ some .directory := by
  by_cases hmem : m ∈ [k, l]
  · exact h.get?_ne_directory d e p q first second k l m (by
      simpa only [List.mem_cons, List.not_mem_nil, or_false] using hmem)
  · exact ne_directory_of_file e m bs ((h.spares.file m hmem bs).mpr hm)

/-- When both temporary files are taken away again, nothing else has been touched. -/
theorem BothStaged.discarded (d d' e : Disk) (p q first second : String) (k l : Location)
    (h : BothStaged d d' p q first second k l)
    (he : e = removeIfThere (removeIfThere d' (temporaryOf p)) (temporaryOf q)) :
    Spares [k, l] d e ∧ (∀ m ∈ [k, l], e.get? m = none) ∧
      e.locate (temporaryOf p) = .ok k ∧ e.locate (temporaryOf q) = .ok l := by
  have hdir := h.get?_ne_directory d d' p q first second k l
  have hget := fun m => get?_removeBoth d' _ _ k l m h.locate_first
    (namesDirectory_temporaryOf p) (hdir k (Or.inl rfl)) h.locate_second
    (namesDirectory_temporaryOf q) (hdir l (Or.inr rfl))
  have hremove := spares_removeBoth d' _ _ k l h.locate_first (namesDirectory_temporaryOf p)
    (hdir k (Or.inl rfl)) h.locate_second (namesDirectory_temporaryOf q) (hdir l (Or.inr rfl))
  rw [← he] at hget hremove
  refine ⟨?_, fun m hm => ?_, hremove.locate _ d' e _ k h.locate_first,
    hremove.locate _ d' e _ l h.locate_second⟩
  · exact (h.spares.trans [k, l] [k, l] d d' e hremove).mono _ _ d e fun m hm =>
      (List.mem_append.mp hm).elim id id
  · rw [hget m, if_pos (by simpa only [List.mem_cons, List.not_mem_nil, or_false] using hm)]

/-- When the first file cannot be renamed. -/
theorem keeps_iff_of_first_rename_error (d d' e : Disk) (p q first second : String)
    (k l : Location) (h : BothStaged d d' p q first second k l)
    (hstaged : ∃ staged, (stage d (.text p) first).2 = .ok staged) (x : Fault)
    (hrename : d'.rename (temporaryOf p) p = .error x)
    (he : e = removeIfThere (removeIfThere d' (temporaryOf p)) (temporaryOf q)) :
    (e.stored p = d.stored p ∧ e.stored q = d.stored q) ↔
      ¬Uncovers d e p ∧ ¬Uncovers d e q ∧ ¬TakesOutput d e p q first := by
  rcases h.discarded d d' e p q first second k l he with ⟨hspares, hgone, hk, hl⟩
  -- If there had been a file at the first path then the rename would have replaced it.
  have hnone : d.stored p = none := by
    rw [Option.eq_none_iff_forall_ne_some]
    intro bs hbs
    rcases (stored_eq_some_iff d p bs).mp hbs with ⟨m, hm, hfile, hp⟩
    exact h.not_directory_of_file d d' p q first second k l m bs hfile
      (get?_of_rename_error d' _ p k m _ x hrename h.locate_first h.get_first
        (namesDirectory_temporaryOf p) (h.spares.locate [k, l] d d' p m hm) hp)
  refine keeps_iff_of_gone d e p q first k [k, l] hspares hgone hstaged hk List.mem_cons_self
    fun m hm => ?_
  rcases List.mem_cons.mp hm with rfl | hm
  · exact Or.inl rfl
  · rw [List.mem_singleton.mp hm]
    exact Or.inr ⟨hl, hnone⟩

/-- The first output is in place, and the temporary files are gone. -/
structure Moved (d e : Disk) (p q first second : String) (k l m : Location) : Prop where
  spares : Spares [k, l, m] d e
  locate_first : e.locate (temporaryOf p) = .ok k
  locate_second : e.locate (temporaryOf q) = .ok l
  locate_target : e.locate p = .ok m
  names_file : namesDirectory p = false
  gone_first : e.get? k = none
  gone_second : e.get? l = none
  get_target : m ≠ l → e.get? m = some (.file (Text.encode (if k = l then second else first)))

theorem moved_of_rename (d d' d₃ e : Disk) (p q first second : String) (k l : Location)
    (h : BothStaged d d' p q first second k l)
    (hrename : d'.rename (temporaryOf p) p = .ok d₃)
    (he : e = removeIfThere (removeIfThere d₃ (temporaryOf p)) (temporaryOf q)) :
    ∃ m, Moved d e p q first second k l m := by
  rcases spares_rename d' d₃ _ p k _ hrename h.locate_first h.get_first
    with ⟨m, hm, hp, hmove, hget₃⟩
  have hmk := ne_of_locate_temporary d' p m k hm hp h.locate_first
  have hk₃ := hmove.locate _ d' d₃ _ k h.locate_first
  have hl₃ := hmove.locate _ d' d₃ _ l h.locate_second
  have hdir₃ : ∀ n, n = k ∨ n = l → d₃.get? n ≠ some .directory := by
    intro n hn
    rw [hget₃ n]
    split
    · simp only [ne_eq, Option.some.injEq, reduceCtorEq, not_false_eq_true]
    · split
      · simp only [ne_eq, reduceCtorEq, not_false_eq_true]
      · exact h.get?_ne_directory d d' p q first second k l n hn
  have hget := fun n => get?_removeBoth d₃ _ _ k l n hk₃ (namesDirectory_temporaryOf p)
    (hdir₃ k (Or.inl rfl)) hl₃ (namesDirectory_temporaryOf q) (hdir₃ l (Or.inr rfl))
  have hremove := spares_removeBoth d₃ _ _ k l hk₃ (namesDirectory_temporaryOf p)
    (hdir₃ k (Or.inl rfl)) hl₃ (namesDirectory_temporaryOf q) (hdir₃ l (Or.inr rfl))
  rw [← he] at hget hremove
  refine ⟨m, ⟨?_, hremove.locate _ d₃ e _ k hk₃, hremove.locate _ d₃ e _ l hl₃,
    hremove.locate _ d₃ e _ m (hmove.locate _ d' d₃ _ m hm), hp, ?_, ?_, ?_⟩⟩
  · refine ((h.spares.trans _ [k, m] d d' d₃ hmove).trans _ [k, l] d d₃ e hremove).mono _ _ d e ?_
    intro n hn
    simp only [List.mem_append, List.mem_cons, List.not_mem_nil, or_false] at hn ⊢
    grind
  · rw [hget k, if_pos (Or.inl rfl)]
  · rw [hget l, if_pos (Or.inr rfl)]
  · intro hml
    rw [hget m, if_neg (not_or.mpr ⟨hmk, hml⟩), hget₃ m, if_pos rfl]

theorem Moved.stored_target (d e : Disk) (p q first second : String) (k l m : Location)
    (h : Moved d e p q first second k l m) : e.stored p = placed e p q first second := by
  unfold placed
  simp only [h.locate_first, h.locate_second, h.locate_target, Except.ok.injEq]
  by_cases hlm : l = m
  · rw [if_pos hlm]
    exact stored_eq_none_of_get? e p m h.locate_target (hlm ▸ h.gone_second)
  · rw [if_neg hlm]
    have hget := h.get_target (Ne.symm hlm)
    by_cases hlk : l = k
    · rw [if_pos hlk.symm] at hget
      rw [if_pos hlk]
      exact (stored_of_locate e p m h.locate_target h.names_file _).mpr hget
    · rw [if_neg (Ne.symm hlk)] at hget
      rw [if_neg hlk]
      exact (stored_of_locate e p m h.locate_target h.names_file _).mpr hget

/-- If there is a second output then it is the first, since nothing else keeps it from
    being replaced. -/
theorem Moved.stored_second (d e : Disk) (p q first second : String) (k l m : Location)
    (h : Moved d e p q first second k l m) (hkeep : e.stored p = d.stored p)
    (htaken : ¬∃ n, d.locate q = .ok n ∧ n = k) (bs : List UInt8) (hbs : d.stored q = some bs) :
    e.stored q = some bs := by
  rcases (stored_eq_some_iff d q bs).mp hbs with ⟨n, hn, hfile, hq⟩
  have hn' := h.spares.locate _ d e q n hn
  have hnl := ne_of_locate_temporary e q n l hn' hq h.locate_second
  have hnk : n ≠ k := fun hc => htaken ⟨n, hn, hc⟩
  by_cases hnm : n = m
  · subst hnm
    have hget := h.get_target hnl
    have hstored := (stored_of_locate e p n h.locate_target h.names_file _).mpr hget
    rw [hkeep] at hstored
    rcases (stored_eq_some_iff d p _).mp hstored with ⟨m', hm', hget', -⟩
    have hmm : n = m' := Except.ok.inj (h.locate_target.symm.trans (h.spares.locate _ d e p m' hm'))
    rw [← hmm, hfile, Option.some.injEq, Entry.file.injEq] at hget'
    rw [stored_of_locate e q n hn' hq, hget, hget']
  · -- Its file was not touched, so it could have been replaced.
    have hmem : n ∉ [k, l, m] := by
      simp only [List.mem_cons, List.not_mem_nil, or_false, hnk, hnl, hnm, not_false_eq_true]
    rw [stored_of_locate e q n hn' hq, h.spares.file n hmem]
    exact hfile

/-- If the first output is what it was, then a file that the second path leads to now was
    there before. -/
theorem Moved.get?_of_stored_second (d e : Disk) (p q first second : String)
    (k l m n : Location) (h : Moved d e p q first second k l m) (hkeep : e.stored p = d.stored p)
    (bs : List UInt8) (hfile : e.get? n = some (.file bs)) : d.get? n = some (.file bs) := by
  by_cases hnm : n = m
  · subst hnm
    have hstored := (stored_of_locate e p n h.locate_target h.names_file bs).mpr hfile
    rw [hkeep] at hstored
    rcases (stored_eq_some_iff d p bs).mp hstored with ⟨m', hm', hget', -⟩
    have hmm := h.locate_target.symm.trans (h.spares.locate _ d e p m' hm')
    rw [Except.ok.inj hmm]
    exact hget'
  · refine (h.spares.file n ?_ bs).mp hfile
    simp only [List.mem_cons, List.not_mem_nil, or_false, hnm, not_or]
    refine ⟨fun hc => ?_, fun hc => ?_⟩
    · rw [hc, h.gone_first] at hfile
      exact absurd hfile (by simp only [reduceCtorEq, not_false_eq_true])
    · rw [hc, h.gone_second] at hfile
      exact absurd hfile (by simp only [reduceCtorEq, not_false_eq_true])

/-- When the second file cannot be renamed. -/
theorem Moved.keeps_iff (d e : Disk) (p q first second : String) (k l m : Location)
    (h : Moved d e p q first second k l m)
    (hstaged : ∃ staged, (stage d (.text p) first).2 = .ok staged) :
    (e.stored p = d.stored p ∧ e.stored q = d.stored q) ↔
      ¬Uncovers d e p ∧ ¬Uncovers d e q ∧ ¬TakesOutput d e p q first ∧
        d.stored p = placed e p q first second := by
  have hplaced := h.stored_target d e p q first second k l m
  constructor
  · rintro ⟨hp, hq⟩
    refine ⟨not_uncovers_of_stored_eq d e p hp, not_uncovers_of_stored_eq d e q hq, ?_,
      hp.symm.trans hplaced⟩
    rintro ⟨-, hsome, n, hn, hn'⟩
    have hnk : n = k := Except.ok.inj (hn'.symm.trans h.locate_first)
    rw [← hq, stored_eq_none_of_get? e q n (h.spares.locate _ d e q n hn)
      (hnk ▸ h.gone_first)] at hsome
    exact absurd hsome (by decide)
  · rintro ⟨-, hq, htakes, hp⟩
    have hkeep : e.stored p = d.stored p := hplaced.trans hp.symm
    refine ⟨hkeep, ?_⟩
    cases hd : d.stored q with
    | some bs =>
        refine h.stored_second d e p q first second k l m hkeep ?_ bs hd
        rintro ⟨n, hn, rfl⟩
        exact htakes ⟨hstaged, by rw [hd]; rfl, n, hn, h.locate_first⟩
    | none =>
        cases he : e.stored q with
        | none => rfl
        | some bs =>
            rcases (stored_eq_some_iff e q bs).mp he with ⟨n, hn, hfile, hname⟩
            have hold :=
              h.get?_of_stored_second d e p q first second k l m n hkeep bs hfile
            rw [← stored_of_stored d e _ h.spares q n bs hn hname hold hfile hq, hd]

/-- A write that fails keeps what was stored at both paths exactly if no path comes to
    lead to a file that it did not lead to before, the second output was not taken for
    the temporary file of the first, and the first output is not in place already, or
    had the same text before. -/
theorem write_keeps_iff (d e : Disk) (p q first second target : String)
    (fault : WriteFault) (log : List Log.Line)
    (h : write d (.text p) (.text q) first second
      = ⟨e, log, .error (.failure (.outputWrite target fault))⟩) :
    (e.stored p = d.stored p ∧ e.stored q = d.stored q) ↔
      ¬Uncovers d e p ∧ ¬Uncovers d e q ∧ ¬TakesOutput d e p q first ∧
        (log ≠ [] → d.stored p = placed e p q first second) := by
  rcases write_failure_cases d e p q first second log _ h with
    ⟨hfirst, rfl⟩ | ⟨d', a, d'', ha, hsecond, he, rfl⟩ | ⟨d', a, d'', b, ha, hb, hplace⟩
  · rw [keeps_iff_of_first_error d e p q first _ hfirst]
    simp only [ne_eq, not_true_eq_false, false_implies, and_true]
  · rw [keeps_iff_of_second_error d d' d'' p q first second a _ ha hsecond e he]
    simp only [ne_eq, not_true_eq_false, false_implies, and_true]
  · have hstaged : ∃ staged, (stage d (.text p) first).2 = .ok staged := ⟨a, by rw [ha]⟩
    rcases bothStaged_of_stage d d' d'' p q first second a b ha hb with ⟨k, l, hboth⟩
    rcases hplace with ⟨⟨x, hrename⟩, he, rfl⟩ | ⟨d₃, hrename, ⟨x, hrename'⟩, he, hlog⟩
    · rw [keeps_iff_of_first_rename_error d d'' e p q first second k l hboth hstaged x hrename he]
      simp only [ne_eq, not_true_eq_false, false_implies, and_true]
    · rcases moved_of_rename d d'' d₃ e p q first second k l hboth hrename he
        with ⟨m, hmoved⟩
      rw [hmoved.keeps_iff d e p q first second k l m hstaged]
      simp only [ne_eq, hlog, not_false_eq_true, true_implies]

/-- A disk with an old output. -/
def oldOutput : Disk :=
  ⟨["w"], [(["w"], .directory), (["w", "a.rs"], .file [111])]⟩

/-- The disk after a write whose second output was to go to a path with a slash at the
    end: the slash made a directory of it. -/
def newOutput : Disk :=
  ⟨["w"], [(["w"], .directory), (["w", "a.rs"], .file [65]), (["w", "out"], .directory)]⟩

set_option maxRecDepth 4000 in
/-- The first output is replaced, and the write fails. -/
theorem write_keeps_iff_endsInSlash :
    write oldOutput (.text "a.rs") (.text "out/") "A" "B" = ⟨newOutput, [wroteLine "a.rs" 1],
        .error (.failure (.outputWrite "out/" (.refused .notADirectory)))⟩ ∧
      ¬(newOutput.stored "a.rs" = oldOutput.stored "a.rs" ∧
        newOutput.stored "out/" = oldOutput.stored "out/") := by
  have hwrite : write oldOutput (.text "a.rs") (.text "out/") "A" "B"
      = ⟨newOutput, [wroteLine "a.rs" 1],
        .error (.failure (.outputWrite "out/" (.refused .notADirectory)))⟩ := rfl
  have hold : oldOutput.stored "a.rs" ≠ placed newOutput "a.rs" "out/" "A" "B" := by decide
  refine ⟨hwrite, fun hkeep => ?_⟩
  have hiff := write_keeps_iff oldOutput newOutput "a.rs" "out/" "A" "B" "out/" _ _ hwrite
  exact hold ((hiff.mp hkeep).2.2.2 (List.cons_ne_nil _ _))

end OpcodeForge.Output
