import OpcodeForge.Proofs.Output.Keeping

/-!
# Ordinary Outputs

Outputs for which a write that fails keeps everything. What can go wrong otherwise needs
directories that are missing, a path that names a directory, one file under both paths,
or an output that is the temporary file of the other (`Output.Ordinary` excludes these).

The reason is that nothing is left to go wrong once both texts are staged. Staging makes
no directory, since those of the outputs are there already, and has found out that no
output is a directory itself. A rename fails for no other reason, unless the file to be
renamed is gone, and it is gone only if both outputs had the same temporary file.

## Main definitions

* `Output.Ordinary`: Two outputs in directories that exist, and apart from each other.

## Theorems

* `Output.stage_of_locate`: Staging beside an output whose directory exists.
* `Output.temporaries_eq_of_rename_error`: Why a second rename fails.
* `Output.Ordinary.keeps`: A failed write to ordinary outputs keeps both.
-/

namespace OpcodeForge.Output

open Disk

/-- Two outputs in directories that exist. They are different files, and the second is
    not the temporary file of the first. -/
structure Ordinary (d : Disk) (p q : String) (k l : Location) : Prop where
  locate_first : d.locate p = .ok k
  locate_second : d.locate q = .ok l
  names_first : namesDirectory p = false
  names_second : namesDirectory q = false
  ne : k ≠ l
  apart : ∀ dir name, k = dir ++ [name] → l ≠ dir ++ [name ++ temporarySuffix]

theorem makeParent_of_locate (d : Disk) (p : String) (k : Location) (hk : d.locate p = .ok k)
    (hp : namesDirectory p = false) : makeParent d p = (d, .ok ()) := by
  rcases (locate_eq_ok_iff d p k).mp hk with ⟨-, hempty, -⟩
  have hne : p ≠ "" := fun hc => Bool.eq_false_iff.mp hempty (String.isEmpty_iff.mpr hc)
  rcases split_of_namesDirectory_eq_false p hne hp with ⟨htail, -⟩
  unfold makeParent
  dsimp only
  split
  · rfl
  · rename_i hparent
    have hhead : (Path.split p).1 ≠ "" := fun hc => hparent (String.isEmpty_iff.mpr hc)
    exact makeDirectories_of_isDirectory d _
      (isDirectory_split d p k hk hhead fun hc => absurd hc htail)

/-- Beside an output whose directory exists staging only writes the temporary file, and
    it has made sure that the output is no directory. -/
theorem stage_of_locate (d e : Disk) (p text : String) (staged : Staged) (k : Location)
    (hk : d.locate p = .ok k) (hp : namesDirectory p = false)
    (h : stage d (.text p) text = (e, .ok staged)) :
    d.get? k ≠ some .directory ∧ ∃ m, d.get? m ≠ some .directory ∧
      e = d.put m (.file (Text.encode text)) := by
  rcases stage_cases d e p text staged h with ⟨hdirectory, -, d', hmade, hwrite⟩
  rw [makeParent_of_locate d p k hk hp, Prod.mk.injEq] at hmade
  rw [← hmade.1] at hwrite
  rcases (write_eq_ok_iff d e _ _).mp hwrite with ⟨m, -, hm, -, rfl⟩
  exact ⟨fun hc => Bool.eq_false_iff.mp hdirectory ((isDirectory_iff d p).mpr ⟨k, hk, hc⟩),
    m, hm, rfl⟩

theorem get?_put_ne_directory (d : Disk) (m n : Location) (bs : List UInt8)
    (hm : d.get? m ≠ some .directory) (hn : d.get? n ≠ some .directory) :
    (d.put m (.file bs)).get? n ≠ some .directory := by
  rw [get?_put d m n _ (ne_nil_of_get?_ne_directory d m hm)]
  split
  · simp only [ne_eq, Option.some.injEq, reduceCtorEq, not_false_eq_true]
  · exact hn

/-- If the first output could be renamed and the second is no directory, then the second
    can be renamed as well, unless its temporary file was that of the first. -/
theorem temporaries_eq_of_rename_error (d d' d₃ : Disk) (p q first second : String)
    (k l n : Location) (h : BothStaged d d' p q first second k l) (x : Fault)
    (hrename : d'.rename (temporaryOf p) p = .ok d₃)
    (hrename' : d₃.rename (temporaryOf q) q = .error x) (hn : d'.locate q = .ok n)
    (hq : namesDirectory q = false) (hdir : d'.get? n ≠ some .directory) : k = l := by
  rcases spares_rename d' d₃ _ p k _ hrename h.locate_first h.get_first
    with ⟨m, -, -, hmove, hget₃⟩
  by_cases hkl : k = l
  · exact hkl
  · have hfile : ∃ cs, d₃.get? l = some (.file cs) := by
      rw [hget₃ l, if_neg (Ne.symm hkl), h.get_second]
      split
      · exact ⟨_, rfl⟩
      · exact ⟨_, rfl⟩
    rcases hfile with ⟨cs, hcs⟩
    have hdir₃ := get?_of_rename_error d₃ _ q l n cs x hrename' (hmove.locate _ d' d₃ _ l
      h.locate_second) hcs (namesDirectory_temporaryOf q) (hmove.locate _ d' d₃ q n hn) hq
    rw [hget₃ n] at hdir₃
    split at hdir₃
    · exact absurd hdir₃ (by simp only [Option.some.injEq, reduceCtorEq, not_false_eq_true])
    · split at hdir₃
      · exact absurd hdir₃ (by simp only [reduceCtorEq, not_false_eq_true])
      · exact absurd hdir₃ hdir

namespace Ordinary

theorem not_uncovers (d e : Disk) (p : String) (k : Location) (hk : d.locate p = .ok k) :
    ¬Uncovers d e p := by
  rintro ⟨⟨f, hf⟩, -⟩
  rw [hk] at hf
  exact absurd hf (by simp only [reduceCtorEq, not_false_eq_true])

theorem not_takesOutput (d e : Disk) (p q text : String) (k l : Location) (t : List Location)
    (h : Ordinary d p q k l) (hspares : Spares t d e) : ¬TakesOutput d e p q text := by
  rintro ⟨-, -, m, hm, hm'⟩
  have hml : m = l := Except.ok.inj (hm.symm.trans h.locate_second)
  rcases exists_of_locate_temporary e p k m (hspares.locate t d e p k h.locate_first)
    h.names_first hm' with ⟨dir, name, hk, htemp⟩
  exact h.apart dir name hk (hml.symm.trans htemp)

/-- Staging has found out that the second output is no directory, and has not made one
    of it. -/
theorem second_ne_directory (d d' d'' : Disk) (p q first second : String) (k l : Location)
    (a b : Staged) (h : Ordinary d p q k l) (ha : stage d (.text p) first = (d', .ok a))
    (hb : stage d' (.text q) second = (d'', .ok b)) : d''.get? l ≠ some .directory := by
  rcases stage_ok d d' p first a ha with ⟨-, i, -, hspares, -⟩
  rcases stage_of_locate d' d'' q second b l (hspares.locate _ d d' q l h.locate_second)
    h.names_second hb with ⟨hl, m, hm, rfl⟩
  exact get?_put_ne_directory d' m l _ hm hl

/-- A failed write to ordinary outputs keeps what was stored at both. -/
theorem keeps (d e : Disk) (p q first second : String) (k l : Location)
    (h : Ordinary d p q k l) (log : List Log.Line) (f : Failure)
    (hwrite : write d (.text p) (.text q) first second = ⟨e, log, .error (.failure f)⟩) :
    e.stored p = d.stored p ∧ e.stored q = d.stored q := by
  have hp := not_uncovers d e p k h.locate_first
  have hq := not_uncovers d e q l h.locate_second
  have htakes := fun t hspares => h.not_takesOutput d e p q first k l t hspares
  rcases write_failure_cases d e p q first second log f hwrite with
    ⟨hfirst, -⟩ | ⟨d', a, d'', ha, hsecond, he, -⟩ | ⟨d', a, d'', b, ha, hb, hplace⟩
  · exact (keeps_iff_of_first_error d e p q first _ hfirst).mpr
      ⟨hp, hq, htakes _ (stage_failure d e p first _ hfirst)⟩
  · rcases spares_of_second_error d d' d'' p q first second a _ ha hsecond e he with
      ⟨_, -, hspares, -⟩
    exact (keeps_iff_of_second_error d d' d'' p q first second a _ ha hsecond e he).mpr
      ⟨hp, hq, htakes _ hspares⟩
  · rcases bothStaged_of_stage d d' d'' p q first second a b ha hb with ⟨i, j, hboth⟩
    rcases hplace with ⟨⟨x, hrename⟩, he, -⟩ | ⟨d₃, hrename, ⟨x, hrename'⟩, -⟩
    · have hspares := (hboth.discarded d d'' e p q first second i j he).1
      exact (keeps_iff_of_first_rename_error d d'' e p q first second i j hboth ⟨a, by rw [ha]⟩ x
        hrename he).mpr ⟨hp, hq, htakes _ hspares⟩
    · -- The second output is no directory, so only one temporary file is left to rename.
      have hk := hboth.spares.locate _ d d'' p k h.locate_first
      have hl := hboth.spares.locate _ d d'' q l h.locate_second
      have hdir := h.second_ne_directory d d' d'' p q first second k l a b ha hb
      have hij := temporaries_eq_of_rename_error d d'' d₃ p q first second i j l hboth x hrename
        hrename' hl h.names_second hdir
      exact absurd ((eq_iff_of_locate_temporary d'' p q k l i j hk h.names_first
        hboth.locate_first hl h.names_second hboth.locate_second).mpr hij) h.ne

end Ordinary

end OpcodeForge.Output
