import OpcodeForge.Proofs.Disk.Destinations
import OpcodeForge.Proofs.Output.Written

/-!
# Replaced Outputs

Four locations matter to a write, those of the two outputs and of their temporary files
(`Output.sites`). If they are four, then a write that succeeds has replaced the outputs and done
nothing else: each output has its text, whatever was there before, no temporary file is left,
also none from an earlier write, and all other files are the same. Directories come in on the
way to an output, and none goes.

Which locations these are is said by the paths alone. What is staged for the first output can
open a way that the second goes, so neither path need lead anywhere before the write.

## Main definitions

* `Output.sites`: The locations of the outputs and of their temporary files.
* `Output.InPlace`: An output that has its text, and no temporary file.
* `Output.Replaced`: What a write that succeeds leaves.

## Theorems

* `Output.makesOnly_of_stage`: Staging makes directories on the way to its output only.
* `Output.BothStaged.replaced`: Two renames leave replaced outputs.
* `Output.exists_of_write`: The steps of a write that succeeds.
* `Output.replaced_of_write`: A write that succeeds leaves replaced outputs.
* `Output.write_replaces`: What this means for the two paths and for all others.
-/

namespace OpcodeForge.Output

open Disk
open OpcodeForge.Path (Begins)

/-- The locations of two outputs and of their temporary files. -/
def sites (d : Disk) (p q : String) : List Location :=
  [d.destination p, d.destination (temporaryOf p), d.destination q,
    d.destination (temporaryOf q)]

theorem nodup_four_iff (k t l u : Location) : [k, t, l, u].Nodup ↔
    (k ≠ t ∧ k ≠ l ∧ k ≠ u) ∧ (t ≠ l ∧ t ≠ u) ∧ l ≠ u := by
  simp only [List.nodup_cons, List.mem_cons, List.not_mem_nil, or_false, not_or, ne_eq,
    not_false_eq_true, List.nodup_nil, and_true]

/-- An output at the location `k` that has its text, and no temporary file at `t`. -/
structure InPlace (e : Disk) (p text : String) (k t : Location) : Prop where
  locate : e.locate p = .ok k
  locate_temporary : e.locate (temporaryOf p) = .ok t
  file : namesDirectory p = false
  get : e.get? k = some (.file (Text.encode text))
  gone : e.get? t = none

/-- What a write that succeeds leaves, if its sites are four. -/
structure Replaced (d e : Disk) (p q first second : String) : Prop where
  first : InPlace e p first (d.destination p) (d.destination (temporaryOf p))
  second : InPlace e q second (d.destination q) (d.destination (temporaryOf q))
  spares : Spares (sites d p q) d e
  makesOnly : MakesOnly (fun r => Begins r p ∨ Begins r q) d e

theorem makesOnly_makeParent (d : Disk) (p : String) :
    MakesOnly (Begins · p) d (makeParent d p).1 := by
  unfold makeParent
  dsimp only
  split
  · exact MakesOnly.refl _ d
  · exact (makesOnly_makeDirectories d (Path.parent p)).mono _ d _ _
      fun r hr => hr.trans r _ p (Path.begins_split p)

/-- Staging makes directories on the way to its output only. -/
theorem makesOnly_of_stage (d e : Disk) (p text : String) (staged : Staged)
    (h : stage d (.text p) text = (e, .ok staged)) : MakesOnly (Begins · p) d e := by
  rcases stage_cases d e p text staged h with ⟨-, -, d', hmade, hwrite⟩
  have hparent := makesOnly_makeParent d p
  rw [hmade] at hparent
  rcases (write_eq_ok_iff d' e _ _).mp hwrite with ⟨k, -, hdir, -, rfl⟩
  exact hparent.trans _ d d' _ (makesOnly_put _ d' k _ hdir)

theorem makesOnly_rename (kind : String → Prop) (d e : Disk) (p q : String)
    (h : d.rename p q = .ok e) : MakesOnly kind d e := by
  rcases (rename_eq_ok_iff d e p q).mp h with ⟨a, b, bs, ha, -, hfile, -⟩
  rcases spares_rename d e p q a bs h ha hfile with ⟨b, -, -, hspares, hget⟩
  refine makesOnly_of_get? kind d e hspares.here fun k hk => ?_
  rw [hget k] at hk
  split at hk
  · exact absurd hk (by simp only [Option.some.injEq, reduceCtorEq, not_false_eq_true])
  · split at hk
    · exact absurd hk (by simp only [reduceCtorEq, not_false_eq_true])
    · exact hk

/-- Two renames leave replaced outputs, if four locations were involved. -/
theorem BothStaged.replaced (d d' d₃ e : Disk) (p q first second : String) (k l : Location)
    (h : BothStaged d d' p q first second k l) (hsites : (sites d p q).Nodup)
    (hmakes : MakesOnly (fun r => Begins r p ∨ Begins r q) d d')
    (hrename : d'.rename (temporaryOf p) p = .ok d₃)
    (hrename' : d₃.rename (temporaryOf q) q = .ok e) : Replaced d e p q first second := by
  -- No step changes where a path leads to, so every location below is a destination.
  have hdest : ∀ f : Disk, f.here = d.here → ∀ r i, f.locate r = .ok i → i = d.destination r := by
    intro f hf r i hi
    rw [eq_destination_of_locate f r i hi, destination_congr d f hf]
  rcases spares_rename d' d₃ _ p k _ hrename h.locate_first h.get_first
    with ⟨m, hm, hp, hmove, hget₃⟩
  have hl := hmove.locate _ d' d₃ _ l h.locate_second
  obtain rfl := hdest d' h.spares.here p m hm
  obtain rfl := hdest d' h.spares.here _ k h.locate_first
  obtain rfl := hdest d' h.spares.here _ l h.locate_second
  -- The first output and its temporary file, and then those of the second.
  rcases (nodup_four_iff _ _ _ _).mp hsites with ⟨⟨hpt, hpq, hpu⟩, ⟨htq, htu⟩, hqu⟩
  rw [if_neg htu] at hget₃
  have hfile : d₃.get? (d.destination (temporaryOf q)) = some (.file (Text.encode second)) := by
    rw [hget₃, if_neg (Ne.symm hpu), if_neg (Ne.symm htu), h.get_second]
  rcases spares_rename d₃ e _ q _ _ hrename' hl hfile with ⟨n, hn, hq, hmove', hget⟩
  obtain rfl := hdest d₃ (hmove.here.trans h.spares.here) q n hn
  have hkeep : ∀ r i, d'.locate r = .ok i → e.locate r = .ok i := fun r i hi =>
    hmove'.locate _ d₃ e r i (hmove.locate _ d' d₃ r i hi)
  refine ⟨⟨hkeep p _ hm, hkeep _ _ h.locate_first, hp, ?_, ?_⟩,
    ⟨hmove'.locate _ d₃ e q _ hn, hkeep _ _ h.locate_second, hq, ?_, ?_⟩, ?_, ?_⟩
  · rw [hget, if_neg hpq, if_neg hpu, hget₃, if_pos rfl]
  · rw [hget, if_neg htq, if_neg htu, hget₃, if_neg (Ne.symm hpt), if_pos rfl]
  · rw [hget, if_pos rfl]
  · rw [hget, if_neg (Ne.symm hqu), if_pos rfl]
  · refine (h.spares.trans _ _ d d' e (hmove.trans _ _ d' d₃ e hmove')).mono _ _ d e ?_
    simp only [sites, List.mem_append, List.mem_cons, List.not_mem_nil, or_false]
    grind
  · exact hmakes.trans _ d d' e ((makesOnly_rename _ d' d₃ _ p hrename).trans _ d' d₃ e
      (makesOnly_rename _ d₃ e _ q hrename'))

/-- Both renames succeed, and each line tells of a file that is in place by then. -/
theorem place_eq_ok_iff (d e : Disk) (a b : Staged) (log : List Log.Line) :
    place [a, b] d [a, b] = ⟨e, log, .ok ()⟩ ↔
      ∃ d', d.rename a.temporary a.target = .ok d' ∧ d'.rename b.temporary b.target = .ok e ∧
        log = [wroteLine a.target (sizeOf d' a.target), wroteLine b.target (sizeOf e b.target)] := by
  rw [place]
  cases d.rename a.temporary a.target with
  | error f => simp only [Outcome.mk.injEq, reduceCtorEq, and_false, false_and, exists_false]
  | ok d' =>
      simp only [Except.ok.injEq, exists_eq_left']
      rw [place]
      cases d'.rename b.temporary b.target with
      | error f => simp only [Outcome.mk.injEq, reduceCtorEq, and_false, false_and]
      | ok d'' =>
          simp only [place, Outcome.mk.injEq, Except.ok.injEq, and_true]
          constructor
          · rintro ⟨rfl, hlog⟩
            exact ⟨rfl, hlog.symm⟩
          · rintro ⟨rfl, hlog⟩
            exact ⟨rfl, hlog.symm⟩

/-- A write that succeeds has staged both texts and renamed both files. -/
theorem exists_of_write (d e : Disk) (p q first second : String) (log : List Log.Line)
    (h : write d (.text p) (.text q) first second = ⟨e, log, .ok ()⟩) :
    ∃ d' d₃ k l, BothStaged d d' p q first second k l ∧
      MakesOnly (fun r => Begins r p ∨ Begins r q) d d' ∧
      d'.rename (temporaryOf p) p = .ok d₃ ∧ d₃.rename (temporaryOf q) q = .ok e ∧
      log = [wroteLine p (sizeOf d₃ p), wroteLine q (sizeOf e q)] := by
  have hok : (write d (.text p) (.text q) first second).result = .ok () := by rw [h]
  rcases write_cases d (.text p) (.text q) first second with
    ⟨e', y, hstage, hresult⟩ | ⟨d', a, e', y, ha, hstage, hresult⟩ | ⟨d', a, d'', b, ha, hb, hplace⟩
  · rw [hresult] at hok
    exact absurd hok (by simp only [reduceCtorEq, not_false_eq_true])
  · rw [hresult] at hok
    exact absurd hok (by simp only [reduceCtorEq, not_false_eq_true])
  · rw [hplace, (stage_ok d d' p first a ha).1, (stage_ok d' d'' q second b hb).1] at h
    rcases (place_eq_ok_iff d'' e _ _ log).mp h with ⟨d₃, hrename, hrename', hlog⟩
    rcases bothStaged_of_stage d d' d'' p q first second a b ha hb with ⟨k, l, hboth⟩
    have hmakes : MakesOnly (fun r => Begins r p ∨ Begins r q) d d'' :=
      ((makesOnly_of_stage d d' p first a ha).mono _ d d' _ fun _ => Or.inl).trans _ d d' d''
        ((makesOnly_of_stage d' d'' q second b hb).mono _ d' d'' _ fun _ => Or.inr)
    exact ⟨d'', d₃, k, l, hboth, hmakes, hrename, hrename', hlog⟩

/-- A write that succeeds leaves replaced outputs, if its sites are four. -/
theorem replaced_of_write (d e : Disk) (p q first second : String) (log : List Log.Line)
    (hsites : (sites d p q).Nodup)
    (h : write d (.text p) (.text q) first second = ⟨e, log, .ok ()⟩) :
    Replaced d e p q first second := by
  rcases exists_of_write d e p q first second log h with
    ⟨d', d₃, k, l, hboth, hmakes, hrename, hrename', -⟩
  exact hboth.replaced d d' d₃ e p q first second k l hsites hmakes hrename hrename'

theorem InPlace.stored (e : Disk) (p text : String) (k t : Location)
    (h : InPlace e p text k t) : e.stored p = some (Text.encode text) :=
  (stored_of_locate e p k h.locate h.file _).mpr h.get

theorem InPlace.contains_temporary (e : Disk) (p text : String) (k t : Location)
    (h : InPlace e p text k t) : e.contains (temporaryOf p) = false := by
  unfold contains find?
  simp only [h.locate_temporary, h.gone, Option.isSome_none]

/-- A write that succeeds replaces two outputs and does nothing else, if the outputs and their
    temporary files are four locations. Whatever the paths led to before, they have the texts
    now and no temporary files. Any other file is there after the write exactly if it was there
    before, with the same bytes. No directory is gone, and a new one is named by the beginning of
    one of the two paths. -/
theorem write_replaces (d e : Disk) (p q first second : String) (log : List Log.Line)
    (hsites : (sites d p q).Nodup)
    (h : write d (.text p) (.text q) first second = ⟨e, log, .ok ()⟩) :
    e.stored p = some (Text.encode first) ∧ e.stored q = some (Text.encode second) ∧
      e.contains (temporaryOf p) = false ∧ e.contains (temporaryOf q) = false ∧
      (∀ k, k ∉ sites d p q → ∀ bs,
        e.get? k = some (.file bs) ↔ d.get? k = some (.file bs)) ∧
      (∀ k, d.get? k = some .directory → e.get? k = some .directory) ∧
      ∀ k, e.get? k = some .directory →
        d.get? k = some .directory ∨ ∃ r, (Begins r p ∨ Begins r q) ∧ d.destination r = k := by
  have hreplaced := replaced_of_write d e p q first second log hsites h
  exact ⟨hreplaced.first.stored e p first _ _, hreplaced.second.stored e q second _ _,
    hreplaced.first.contains_temporary e p first _ _,
    hreplaced.second.contains_temporary e q second _ _, hreplaced.spares.file,
    hreplaced.spares.directory, hreplaced.makesOnly.directory⟩

/-- A disk with an old output, a temporary file that was left behind, and another file. -/
def leftBehind : Disk :=
  ⟨["w"], [(["w"], .directory), (["w", "a.rs"], .file [111, 108, 100]),
    (["w", "a.rs.tmp"], .file [63]), (["w", "note"], .file [33])]⟩

/-- The disk after a write to the old output, and to a new one behind a detour. -/
def replacedBoth : Disk :=
  ⟨["w"], [(["w"], .directory), (["w", "a.rs"], .file [65]), (["w", "note"], .file [33]),
    (["w", "x"], .directory), (["w", "gen"], .directory), (["w", "gen", "b.rs"], .file [66])]⟩

set_option maxRecDepth 8000 in
/-- The detour leaves a directory that holds nothing. -/
theorem write_replaces_leftBehind :
    (sites leftBehind "a.rs" "x/../gen/b.rs").Nodup ∧
      write leftBehind (.text "a.rs") (.text "x/../gen/b.rs") "A" "B"
        = ⟨replacedBoth, [wroteLine "a.rs" 1, wroteLine "x/../gen/b.rs" 1], .ok ()⟩ ∧
      replacedBoth.stored "a.rs" = some (Text.encode "A") ∧
      replacedBoth.stored "x/../gen/b.rs" = some (Text.encode "B") ∧
      replacedBoth.contains (temporaryOf "a.rs") = false := by
  have hsites : (sites leftBehind "a.rs" "x/../gen/b.rs").Nodup := by decide
  have hwrite : write leftBehind (.text "a.rs") (.text "x/../gen/b.rs") "A" "B"
      = ⟨replacedBoth, [wroteLine "a.rs" 1, wroteLine "x/../gen/b.rs" 1], .ok ()⟩ := rfl
  rcases write_replaces leftBehind replacedBoth _ _ "A" "B" _ hsites hwrite with
    ⟨hfirst, hsecond, hgone, -⟩
  exact ⟨hsites, hwrite, hfirst, hsecond, hgone⟩

end OpcodeForge.Output
