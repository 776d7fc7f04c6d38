import OpcodeForge.Proofs.Output.Keeping
import OpcodeForge.Proofs.Settings

/-!
# What a Write Leaves

A write that succeeds has staged both texts and renamed both temporary files. Two outputs at one
location have one temporary file, which the second rename would not find any more, so the outputs
are two files. Yet the temporary file of the second can be the first output. Then the first
rename puts the first text where the second waits to be renamed, and in the end the first text is
at the second path and nothing at the first (`Written`).

A write that does not succeed reports the output that it could not write. There are two
exceptions, both of which are found while staging (`BadTarget`).

## Main definitions

* `Output.Written`: What is at the two paths after a write that succeeds.
* `Output.BothMoved`: What is at their locations.
* `Output.BadTarget`: An output that cannot be staged, without a report.

## Theorems

* `Output.write_cases`: A write fails while staging, or else renaming decides.
* `Output.place_result`: Renaming reports what fails.
* `Output.stage_eq_defect_iff`, `Output.write_eq_defect_iff`: When there is no report.
* `Output.outputWrite_of_write_failure`: What a report is about.
* `Output.BothStaged.moved`, `Output.written_of_write`: What a write that succeeds leaves.
-/

namespace OpcodeForge.Output

open Disk

/-- What is at the two paths after a write that succeeds. The first text has gone to the second
    path if the temporary file of the second output is the first output. -/
structure Written (e : Disk) (p q first second : String) : Prop where
  stored_first : e.stored p
    = if e.locate (temporaryOf q) = e.locate p then none else some (Text.encode first)
  stored_second : e.stored q
    = some (Text.encode (if e.locate (temporaryOf q) = e.locate p then first else second))

/-- An output that cannot be staged, and there is no report of it: a path in bytes that leads to
    no directory, or one with a character that no name can have, as long as making the directories
    that it lies in has no other fault before. -/
inductive BadTarget (d : Disk) : Value → Defect → Prop
  | bytes (bs : List UInt8)
      (h : ∀ cs, Text.decode bs = .ok cs → d.isDirectory (String.ofList cs) = false) :
      BadTarget d (.bytes bs) .notAPath
  | name (p : String) (hnul : p.toList.contains '\x00' = true)
      (hparent : ∀ fault, (makeParent d p).2 = .error fault → fault = .badName) :
      BadTarget d (.text p) .badPath

theorem contains_nul_of_makeParent_error (d : Disk) (p : String)
    (h : (makeParent d p).2 = .error .badName) : p.toList.contains '\x00' = true := by
  unfold makeParent at h
  dsimp only at h
  split at h
  · exact absurd h (by simp only [reduceCtorEq, not_false_eq_true])
  · have hhead := contains_nul_of_makeDirectoriesFrom_error _ d (Path.parent p) _ (Prod.ext rfl h)
    rcases Path.exists_eq_split_append p with ⟨more, hmore⟩
    rw [List.contains_iff_mem] at hhead ⊢
    rw [hmore]
    exact List.mem_append_left more hhead

theorem refuse_result (d : Disk) (temporary target : String) (fault : Fault) :
    (fault = .badName ∧ (refuse d temporary target fault).2 = .error (.defect .badPath)) ∨
      (fault ≠ .badName ∧ (refuse d temporary target fault).2
        = .error (.failure (.outputWrite target (.refused fault)))) := by
  cases fault with
  | badName => exact Or.inl ⟨rfl, rfl⟩
  | _ => exact Or.inr ⟨by simp only [ne_eq, reduceCtorEq, not_false_eq_true], rfl⟩

theorem badTarget_text_iff (d : Disk) (p : String) (x : Defect) :
    BadTarget d (.text p) x ↔ x = .badPath ∧ p.toList.contains '\x00' = true ∧
      ∀ fault, (makeParent d p).2 = .error fault → fault = .badName := by
  constructor
  · intro h
    cases h with
    | name p hnul hparent => exact ⟨rfl, hnul, hparent⟩
  · rintro ⟨rfl, hnul, hparent⟩
    exact .name p hnul hparent

theorem contains_nul_temporaryOf (p : String) :
    (temporaryOf p).toList.contains '\x00' = p.toList.contains '\x00' := by
  have hsuffix : temporarySuffix.toList.contains '\x00' = false := by decide
  unfold temporaryOf
  rw [String.toList_append, List.contains_append, hsuffix, Bool.or_false]

/-- A path that leads to a directory is one that names can have. -/
theorem contains_nul_of_isDirectory (d : Disk) (p : String) (h : d.isDirectory p = true) :
    p.toList.contains '\x00' = false := by
  rcases (isDirectory_iff d p).mp h with ⟨k, hk, -⟩
  exact ((locate_eq_ok_iff d p k).mp hk).1

theorem stagePath_eq_defect_iff (d : Disk) (p text : String) (x : Defect) :
    (stagePath d p text).2 = .error (.defect x) ↔ BadTarget d (.text p) x := by
  have hrefused : ∀ e fault, (refuse e (temporaryOf p) p fault).2 = .error (.defect x) ↔
      fault = .badName ∧ x = .badPath := by
    intro e fault
    rcases refuse_result e (temporaryOf p) p fault with ⟨hbad, hresult⟩ | ⟨hbad, hresult⟩
    · rw [hresult, error_defect_eq_iff]
      simp only [hbad, true_and]
    · rw [hresult]
      simp only [hbad, Except.error.injEq, reduceCtorEq, false_and]
  rw [badTarget_text_iff]
  unfold stagePath
  split
  · rename_i hdirectory
    simp only [contains_nul_of_isDirectory d p hdirectory, Except.error.injEq, reduceCtorEq,
      Bool.false_eq_true, false_and, and_false]
  · -- A directory is made along a part of the path, so a bad name in it is one in the path.
    have hnul := contains_nul_of_makeParent_error d p
    rcases hmade : makeParent d p with ⟨d', f | u⟩ <;> rw [hmade] at hnul
    · dsimp only
      rw [show p ++ temporarySuffix = temporaryOf p from rfl, hrefused d' f]
      simp only [Except.error.injEq, forall_eq'] at hnul ⊢
      exact ⟨fun ⟨hbad, hx⟩ => ⟨hx, hnul hbad, hbad⟩, fun ⟨hx, _, hbad⟩ => ⟨hbad, hx⟩⟩
    · have hwrite := d'.write_eq_badName_iff (temporaryOf p) (Text.encode text)
      rw [contains_nul_temporaryOf] at hwrite
      simp only [reduceCtorEq, false_implies, implies_true, and_true, ← hwrite]
      rw [show p ++ temporarySuffix = temporaryOf p from rfl]
      cases d'.write (temporaryOf p) (Text.encode text) with
      | error f =>
          dsimp only
          rw [hrefused d' f, Except.error.injEq, and_comm]
      | ok e => simp only [reduceCtorEq, and_false]

theorem badTarget_bytes_iff (d : Disk) (bs : List UInt8) (x : Defect) :
    BadTarget d (.bytes bs) x ↔ x = .notAPath ∧
      ∀ cs, Text.decode bs = .ok cs → d.isDirectory (String.ofList cs) = false := by
  constructor
  · intro h
    cases h with
    | bytes bs h => exact ⟨rfl, h⟩
  · rintro ⟨rfl, h⟩
    exact .bytes bs h

/-- Staging has a report, unless the output is a bad one. -/
theorem stage_eq_defect_iff (d : Disk) (target : Value) (text : String) (x : Defect)
    (ht : target.IsPath) :
    (stage d target text).2 = .error (.defect x) ↔ BadTarget d target x := by
  rcases ht with ⟨p, rfl⟩ | ⟨bs, rfl, -⟩
  · exact stagePath_eq_defect_iff d p text x
  · rw [badTarget_bytes_iff]
    unfold stage
    dsimp only
    cases Text.decode bs with
    | error f =>
        dsimp only
        rw [error_defect_eq_iff]
        simp only [reduceCtorEq, false_implies, implies_true, and_true]
    | ok cs =>
        simp only [Except.ok.injEq, forall_eq']
        cases d.isDirectory (String.ofList cs) with
        | true => simp only [if_true, Except.error.injEq, reduceCtorEq, Bool.true_eq_false, and_false]
        | false =>
            simp only [Bool.false_eq_true, if_false, and_true]
            exact error_defect_eq_iff x .notAPath

/-- The report about an output that cannot be staged names it. -/
theorem outputWrite_of_stage_failure (d : Disk) (target : Value) (text : String) (f : Failure)
    (h : (stage d target text).2 = .error (.failure f)) :
    ∃ fault, f = .outputWrite target.plain fault := by
  have hrefused : ∀ e fault p, (refuse e (temporaryOf p) p fault).2 = .error (.failure f) →
      ∃ fault, f = .outputWrite p fault := by
    intro e fault p hrefuse
    rcases refuse_result e (temporaryOf p) p fault with ⟨-, hresult⟩ | ⟨-, hresult⟩
    · rw [hresult] at hrefuse
      exact absurd hrefuse (by simp only [Except.error.injEq, reduceCtorEq, not_false_eq_true])
    · rw [hresult, error_failure_eq_iff] at hrefuse
      exact ⟨_, hrefuse⟩
  unfold stage at h
  cases target with
  | text p =>
      change ∃ fault, f = .outputWrite p fault
      dsimp only at h
      unfold stagePath at h
      split at h
      · exact ⟨_, (error_failure_eq_iff f _).mp h⟩
      · dsimp only at h
        split at h
        · exact hrefused _ _ p h
        · split at h
          · exact hrefused _ _ p h
          · exact absurd h (by simp only [reduceCtorEq, not_false_eq_true])
  | bytes bs =>
      dsimp only at h
      split at h
      · split at h
        · exact ⟨_, (error_failure_eq_iff f _).mp h⟩
        · cases h
      · cases h
  | _ => cases h

theorem exists_of_stage_ok (d e : Disk) (target : Value) (text : String) (staged : Staged)
    (h : stage d target text = (e, .ok staged)) :
    ∃ p, target = .text p ∧ staged = ⟨temporaryOf p, p⟩ := by
  cases target with
  | text p => exact ⟨p, rfl, (stage_ok d e p text staged h).1⟩
  | bytes bs =>
      simp only [stage] at h
      split at h
      · split at h <;> cases h
      · cases h
  | _ => cases h

/-- A write fails while the first text is staged, or while the second is, or else renaming
    decides. -/
theorem write_cases (d : Disk) (v w : Value) (first second : String) :
    (∃ e x, stage d v first = (e, .error x) ∧ (write d v w first second).result = .error x) ∨
    (∃ d' a e x, stage d v first = (d', .ok a) ∧ stage d' w second = (e, .error x) ∧
      (write d v w first second).result = .error x) ∨
    ∃ d' a d'' b, stage d v first = (d', .ok a) ∧ stage d' w second = (d'', .ok b) ∧
      write d v w first second = place [a, b] d'' [a, b] := by
  unfold write writeAll
  rw [stageAll]
  rcases ha : stage d v first with ⟨d', (f | x) | a⟩
  · exact Or.inl ⟨d', _, rfl, rfl⟩
  · exact Or.inl ⟨d', _, rfl, rfl⟩
  · refine Or.inr ?_
    simp only [stageAll, List.nil_append, List.singleton_append]
    rcases hb : stage d' w second with ⟨d'', (f | x) | b⟩
    · exact Or.inl ⟨d', a, d'', _, rfl, hb, rfl⟩
    · exact Or.inl ⟨d', a, d'', _, rfl, hb, rfl⟩
    · exact Or.inr ⟨d', a, d'', b, rfl, hb, rfl⟩

/-- Renaming reports the target that it fails at. -/
theorem place_result (all : List Staged) (rest : List Staged) : ∀ d,
    (place all d rest).result = .ok () ∨
      ∃ s ∈ rest, ∃ fault, (place all d rest).result
        = .error (.failure (.outputWrite s.target fault)) := by
  induction rest with
  | nil => exact fun d => Or.inl rfl
  | cons s rest ih =>
      intro d
      rw [place]
      cases d.rename s.temporary s.target with
      | error fault => exact Or.inr ⟨s, List.mem_cons_self, _, rfl⟩
      | ok d' =>
          rcases ih d' with hok | ⟨t, ht, fault, hfail⟩
          · exact Or.inl hok
          · exact Or.inr ⟨t, List.mem_cons_of_mem s ht, fault, hfail⟩

/-- A write has a report, unless one of the outputs is a bad one by the time it is staged. -/
theorem write_eq_defect_iff (d : Disk) (v w : Value) (first second : String) (x : Defect)
    (hv : v.IsPath) (hw : w.IsPath) :
    (write d v w first second).result = .error (.defect x) ↔ BadTarget d v x ∨
      ∃ d' a, stage d v first = (d', .ok a) ∧ BadTarget d' w x := by
  have hfirst := stage_eq_defect_iff d v first x hv
  rcases write_cases d v w first second with
    ⟨e, y, hstage, hresult⟩ | ⟨d', a, e, y, ha, hstage, hresult⟩ | ⟨d', a, d'', b, ha, hb, hplace⟩
  · rw [hresult, ← hfirst, hstage]
    simp only [Prod.mk.injEq, reduceCtorEq, and_false, false_and, exists_false, or_false,
      Except.error.injEq]
  · rw [hresult, ← hfirst, ha]
    simp only [Prod.mk.injEq, Except.ok.injEq, Except.error.injEq, reduceCtorEq, false_or]
    have hsecond := stage_eq_defect_iff d' w second x hw
    rw [hstage] at hsecond
    simp only [Except.error.injEq] at hsecond
    constructor
    · intro hy
      exact ⟨d', a, ⟨rfl, rfl⟩, hsecond.mp hy⟩
    · rintro ⟨d₁, a₁, ⟨rfl, rfl⟩, hbad⟩
      exact hsecond.mpr hbad
  · have hno : (write d v w first second).result ≠ .error (.defect x) := by
      rw [hplace]
      rcases place_result [a, b] [a, b] d'' with hok | ⟨s, -, fault, hfail⟩
      · rw [hok]
        simp only [ne_eq, reduceCtorEq, not_false_eq_true]
      · rw [hfail]
        simp only [ne_eq, Except.error.injEq, reduceCtorEq, not_false_eq_true]
    refine ⟨fun hc => absurd hc hno, ?_⟩
    rintro (hbad | ⟨d₁, a₁, ha₁, hbad⟩)
    · rw [← hfirst, ha] at hbad
      exact absurd hbad (by simp only [reduceCtorEq, not_false_eq_true])
    · rw [ha, Prod.mk.injEq] at ha₁
      rw [← ha₁.1, ← stage_eq_defect_iff d' w second x hw, hb] at hbad
      exact absurd hbad (by simp only [reduceCtorEq, not_false_eq_true])

/-- What a write that fails reports is one of its outputs. -/
theorem outputWrite_of_write_failure (d : Disk) (v w : Value) (first second : String)
    (f : Failure) (h : (write d v w first second).result = .error (.failure f)) :
    ∃ target fault, f = .outputWrite target fault ∧ (target = v.plain ∨ target = w.plain) := by
  rcases write_cases d v w first second with
    ⟨e, y, hstage, hresult⟩ | ⟨d', a, e, y, ha, hstage, hresult⟩ | ⟨d', a, d'', b, ha, hb, hplace⟩
  · rw [hresult, Except.error.injEq] at h
    rcases outputWrite_of_stage_failure d v first f (by rw [hstage, h]) with ⟨fault, hf⟩
    exact ⟨_, fault, hf, Or.inl rfl⟩
  · rw [hresult, Except.error.injEq] at h
    rcases outputWrite_of_stage_failure d' w second f (by rw [hstage, h]) with ⟨fault, hf⟩
    exact ⟨_, fault, hf, Or.inr rfl⟩
  · rcases exists_of_stage_ok d d' v first a ha with ⟨p, rfl, rfl⟩
    rcases exists_of_stage_ok d' d'' w second b hb with ⟨q, rfl, rfl⟩
    rw [hplace] at h
    rcases place_result [⟨temporaryOf p, p⟩, ⟨temporaryOf q, q⟩]
      [⟨temporaryOf p, p⟩, ⟨temporaryOf q, q⟩] d'' with hok | ⟨s, hs, fault, hfail⟩
    · rw [hok] at h
      exact absurd h (by simp only [reduceCtorEq, not_false_eq_true])
    · rw [hfail, error_failure_eq_iff] at h
      refine ⟨s.target, fault, h, ?_⟩
      rcases List.mem_cons.mp hs with rfl | hs
      · exact Or.inl rfl
      · rw [List.mem_singleton.mp hs]
        exact Or.inr rfl

theorem place_eq_ok (d e : Disk) (a b : Staged) (log : List Log.Line)
    (h : place [a, b] d [a, b] = ⟨e, log, .ok ()⟩) :
    ∃ d', d.rename a.temporary a.target = .ok d' ∧ d'.rename b.temporary b.target = .ok e := by
  rw [place] at h
  cases hfirst : d.rename a.temporary a.target with
  | error f => simp only [hfirst, Outcome.mk.injEq, reduceCtorEq, and_false] at h
  | ok d' =>
      simp only [hfirst] at h
      rw [place] at h
      cases hsecond : d'.rename b.temporary b.target with
      | error f => simp only [hsecond, Outcome.mk.injEq, reduceCtorEq, and_false] at h
      | ok d'' =>
          simp only [hsecond, place, Outcome.mk.injEq] at h
          rw [← h.1]
          exact ⟨d', rfl, hsecond⟩

/-- After both renames, where `m` and `n` are the locations of the outputs and `l` is that of the
    second temporary file. -/
structure BothMoved (e : Disk) (p q first second : String) (l m n : Location) : Prop where
  locate_first : e.locate p = .ok m
  locate_second : e.locate q = .ok n
  locate_temporary : e.locate (temporaryOf q) = .ok l
  file_first : namesDirectory p = false
  file_second : namesDirectory q = false
  get_first : e.get? m = if l = m then none else some (.file (Text.encode first))
  get_second : e.get? n = some (.file (Text.encode (if l = m then first else second)))

/-- If both renames find their files, then the outputs are two, and the first rename has not taken
    the second temporary file away. It may have replaced it. -/
theorem BothStaged.moved (d d' d₃ e : Disk) (p q first second : String) (k l : Location)
    (h : BothStaged d d' p q first second k l)
    (hrename : d'.rename (temporaryOf p) p = .ok d₃)
    (hrename' : d₃.rename (temporaryOf q) q = .ok e) :
    ∃ m n, BothMoved e p q first second l m n := by
  rcases spares_rename d' d₃ _ p k _ hrename h.locate_first h.get_first
    with ⟨m, hm, hp, hmove, hget₃⟩
  have hmk := ne_of_locate_temporary d' p m k hm hp h.locate_first
  have hm₃ := hmove.locate _ d' d₃ p m hm
  have hk₃ := hmove.locate _ d' d₃ _ k h.locate_first
  have hl₃ := hmove.locate _ d' d₃ _ l h.locate_second
  rcases (rename_eq_ok_iff d₃ e _ q).mp hrename' with ⟨l', _, bs, hl', -, hfile, -, -, -, -⟩
  rw [hl₃, Except.ok.injEq] at hl'
  rw [← hl'] at hfile
  -- The second rename has found its file, so the first one has not taken it away.
  have hlk : l ≠ k := by
    rintro rfl
    rw [hget₃, if_neg (Ne.symm hmk), if_pos rfl] at hfile
    exact absurd hfile (by simp only [reduceCtorEq, not_false_eq_true])
  rcases spares_rename d₃ e _ q l bs hrename' hl₃ hfile with ⟨n, hn, hq, hmove', hget⟩
  have hmn : m ≠ n := fun hmn =>
    hlk ((eq_iff_of_locate_temporary d₃ p q m n k l hm₃ hp hk₃ hn hq hl₃).mp hmn).symm
  refine ⟨m, n, hmove'.locate _ d₃ e p m hm₃, hmove'.locate _ d₃ e q n hn,
    hmove'.locate _ d₃ e _ l hl₃, hp, hq, ?_, ?_⟩
  · rw [hget m, if_neg hmn, hget₃ m, if_pos rfl, if_neg (Ne.symm hlk)]
    simp only [eq_comm]
  · rw [hget n, if_pos rfl, ← hfile, hget₃ l, if_neg hlk, h.get_second, if_neg (Ne.symm hlk)]
    split <;> rfl

theorem BothMoved.written (e : Disk) (p q first second : String) (l m n : Location)
    (h : BothMoved e p q first second l m n) : Written e p q first second := by
  constructor
  · simp only [h.locate_temporary, h.locate_first, Except.ok.injEq]
    have hget := h.get_first
    split
    · rename_i hlm
      rw [if_pos hlm] at hget
      exact stored_eq_none_of_get? e p m h.locate_first hget
    · rename_i hlm
      rw [if_neg hlm] at hget
      exact (stored_of_locate e p m h.locate_first h.file_first _).mpr hget
  · simp only [h.locate_temporary, h.locate_first, Except.ok.injEq]
    exact (stored_of_locate e q n h.locate_second h.file_second _).mpr h.get_second

/-- A write that succeeds has left both texts, and both outputs are paths as texts. -/
theorem written_of_write (d e : Disk) (v w : Value) (first second : String)
    (log : List Log.Line) (h : write d v w first second = ⟨e, log, .ok ()⟩) :
    ∃ p q, v = .text p ∧ w = .text q ∧ Written e p q first second := by
  have hok : (write d v w first second).result = .ok () := by rw [h]
  rcases write_cases d v w first second with
    ⟨e', y, hstage, hresult⟩ | ⟨d', a, e', y, ha, hstage, hresult⟩ | ⟨d', a, d'', b, ha, hb, hplace⟩
  · rw [hresult] at hok
    exact absurd hok (by simp only [reduceCtorEq, not_false_eq_true])
  · rw [hresult] at hok
    exact absurd hok (by simp only [reduceCtorEq, not_false_eq_true])
  · rcases exists_of_stage_ok d d' v first a ha with ⟨p, rfl, rfl⟩
    rcases exists_of_stage_ok d' d'' w second b hb with ⟨q, rfl, rfl⟩
    rw [hplace] at h
    rcases place_eq_ok d'' e _ _ log h with ⟨d₃, hrename, hrename'⟩
    rcases bothStaged_of_stage d d' d'' p q first second _ _ ha hb with ⟨k, l, hboth⟩
    rcases hboth.moved d d'' d₃ e p q first second k l hrename hrename' with ⟨m, n, hmoved⟩
    exact ⟨p, q, rfl, rfl, hmoved.written e p q first second l m n⟩

end OpcodeForge.Output
