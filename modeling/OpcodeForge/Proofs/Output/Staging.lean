import OpcodeForge.Output
import OpcodeForge.Proofs.Disk.Directories

/-!
# Staging

Each output is first written into a temporary file. Staging that succeeds has touched
that file and nothing else (`stage_ok`). Staging that fails has touched no file at
all (`stage_failure`), although it takes a file away: what keeps the temporary file
from being written keeps it from being found.

A temporary file lies beside its output, so the two are different files, and two
outputs have the same temporary file only if they are the same
(`eq_iff_of_locate_temporary`). But the temporary file of one output can be the other
output.

## Main definitions

* `Output.temporaryOf`: The path of the temporary file for an output.

## Theorems

* `Output.exists_of_locate_temporary`: A temporary file lies beside its output.
* `Output.eq_iff_of_locate_temporary`: Different outputs have different ones.
* `Output.removeIfThere_of_stored_eq_none`: Where no file is, none is taken away.
* `Output.stage_cases`: What staging has done when it succeeds.
* `Output.stage_ok`: Staging writes the temporary file and touches no other.
* `Output.stage_failure`: Staging that fails touches no file.
-/

namespace OpcodeForge.Output

open Disk

/-- The path of the temporary file for an output. -/
def temporaryOf (p : String) : String := p ++ temporarySuffix

theorem split_temporaryOf (p : String) :
    Path.split (temporaryOf p) = ((Path.split p).1, (Path.split p).2 ++ temporarySuffix) :=
  Path.split_append p temporarySuffix (by decide)

theorem append_temporarySuffix_ne (s u : String) (hu : u.toList.getLast? ≠ some 'p') :
    s ++ temporarySuffix ≠ u := by
  intro h
  apply hu
  rw [← h, String.toList_append, List.getLast?_append]
  rfl

theorem segments_temporaryOf (p : String) : Path.segments (temporaryOf p)
    = Path.segments (Path.split p).1 ++ [(Path.split p).2 ++ temporarySuffix] := by
  have hne : (Path.split p).2 ++ temporarySuffix ≠ "" :=
    append_temporarySuffix_ne _ _ (by decide)
  rw [Path.segments_split, split_temporaryOf, if_neg hne]

theorem namesDirectory_temporaryOf (p : String) : namesDirectory (temporaryOf p) = false := by
  have hslash : (temporaryOf p).toList.getLast? = some 'p' := by
    unfold temporaryOf
    rw [String.toList_append, List.getLast?_append]
    rfl
  have hdots : endsInDots (temporaryOf p) = false := by
    unfold endsInDots
    rw [segments_temporaryOf, List.getLast?_concat]
    simp only [Bool.or_eq_false_iff, beq_eq_false_iff_ne]
    exact ⟨append_temporarySuffix_ne _ _ (by decide), append_temporarySuffix_ne _ _ (by decide)⟩
  unfold namesDirectory
  rw [hslash, hdots]
  rfl

/-- A path that does not name a directory has a name of its own. -/
theorem split_of_namesDirectory_eq_false (p : String) (hp : p ≠ "")
    (h : namesDirectory p = false) :
    (Path.split p).2 ≠ "" ∧ (Path.split p).2 ≠ "." ∧ (Path.split p).2 ≠ ".." := by
  unfold namesDirectory at h
  rw [Bool.or_eq_false_iff] at h
  have hne : (Path.split p).2 ≠ "" := by
    intro hc
    rcases Path.split_cases p with ⟨-, ⟨-, hall⟩ | ⟨dir, hall, -⟩⟩
    · rw [hc] at hall
      exact hp (String.toList_eq_nil_iff.mp hall)
    · rw [hall, hc] at h
      exact absurd h.1 (by
        simp only [String.toList_empty, List.getLast?_append, List.getLast?_singleton,
          Option.some_or, beq_self_eq_true, Bool.true_eq_false, not_false_eq_true])
  have hdots := h.2
  unfold endsInDots at hdots
  rw [Path.segments_split, if_neg hne, List.getLast?_concat, Bool.or_eq_false_iff,
    beq_eq_false_iff_ne, beq_eq_false_iff_ne] at hdots
  exact ⟨hne, hdots⟩

theorem next_eq_ok (l m : Location) (name : String) (hdot : name ≠ ".") (hdots : name ≠ "..")
    (h : next l name = .ok m) : m = l ++ [name] := by
  unfold next at h
  rw [if_neg (by simpa only [beq_iff_eq] using hdot),
    if_neg (by simpa only [beq_iff_eq] using hdots)] at h
  split at h
  · exact absurd h (by simp only [reduceCtorEq, not_false_eq_true])
  · exact (Except.ok.inj h).symm

/-- A temporary file lies beside its output. -/
theorem exists_of_locate_temporary (d : Disk) (p : String) (k l : Location)
    (hk : d.locate p = .ok k) (hp : namesDirectory p = false)
    (hl : d.locate (temporaryOf p) = .ok l) :
    ∃ dir name, k = dir ++ [name] ∧ l = dir ++ [name ++ temporarySuffix] := by
  rcases (locate_eq_ok_iff d p k).mp hk with ⟨-, hempty, -, hwalk⟩
  rcases (locate_eq_ok_iff d _ l).mp hl with ⟨-, -, -, hwalk'⟩
  have hne : p ≠ "" := fun hc => Bool.eq_false_iff.mp hempty (String.isEmpty_iff.mpr hc)
  rcases split_of_namesDirectory_eq_false p hne hp with ⟨htail, hdot, hdots⟩
  have horigin : d.origin (temporaryOf p) = d.origin p := by
    have hne' : p.toList ≠ [] := fun hc => hne (String.toList_eq_nil_iff.mp hc)
    unfold origin Path.isAbsolute temporaryOf
    rw [String.toList_append, List.head?_append, List.head?_eq_some_head hne']
    rfl
  rw [Path.segments_split, if_neg htail, walk_append_eq_ok_iff] at hwalk
  rw [horigin, segments_temporaryOf, walk_append_eq_ok_iff] at hwalk'
  rcases hwalk with ⟨dir, hdir, hlast⟩
  rcases hwalk' with ⟨dir', hdir', hlast'⟩
  have hsame : dir' = dir := Except.ok.inj (hdir'.symm.trans hdir)
  subst hsame
  rcases (walk_cons_eq_ok_iff d dir' k _ []).mp hlast with ⟨-, m, hm, hmk⟩
  rcases (walk_cons_eq_ok_iff d dir' l _ []).mp hlast' with ⟨-, m', hm', hml⟩
  refine ⟨dir', (Path.split p).2, ?_, ?_⟩
  · rw [← Except.ok.inj hmk, next_eq_ok dir' m _ hdot hdots hm]
  · rw [← Except.ok.inj hml, next_eq_ok dir' m' _ (append_temporarySuffix_ne _ _ (by decide))
      (append_temporarySuffix_ne _ _ (by decide)) hm']

theorem ne_of_locate_temporary (d : Disk) (p : String) (k l : Location)
    (hk : d.locate p = .ok k) (hp : namesDirectory p = false)
    (hl : d.locate (temporaryOf p) = .ok l) : k ≠ l := by
  rcases exists_of_locate_temporary d p k l hk hp hl with ⟨dir, name, rfl, rfl⟩
  intro hc
  have hname : name = name ++ temporarySuffix :=
    List.singleton_inj.mp (List.append_cancel_left hc)
  have hlen := congrArg String.length hname
  rw [String.length_append] at hlen
  exact absurd hlen (by rw [show temporarySuffix.length = 4 from rfl]; omega)

/-- Two outputs are the same file exactly if their temporary files are. -/
theorem eq_iff_of_locate_temporary (d : Disk) (p q : String) (k k' l l' : Location)
    (hk : d.locate p = .ok k) (hp : namesDirectory p = false)
    (hl : d.locate (temporaryOf p) = .ok l) (hk' : d.locate q = .ok k')
    (hq : namesDirectory q = false) (hl' : d.locate (temporaryOf q) = .ok l') :
    k = k' ↔ l = l' := by
  rcases exists_of_locate_temporary d p k l hk hp hl with ⟨dir, name, rfl, rfl⟩
  rcases exists_of_locate_temporary d q k' l' hk' hq hl' with ⟨dir', name', rfl, rfl⟩
  have hcancel : name = name' ↔ name ++ temporarySuffix = name' ++ temporarySuffix := by
    rw [← String.toList_inj, ← String.toList_inj, String.toList_append, String.toList_append,
      List.append_cancel_right_eq]
  rw [List.append_singleton_inj, List.append_singleton_inj, hcancel]

/-- Where no file is, none is taken away. -/
theorem removeIfThere_of_stored_eq_none (d : Disk) (p : String) (h : d.stored p = none) :
    removeIfThere d p = d := by
  unfold removeIfThere
  cases hr : d.remove p with
  | error f => rfl
  | ok e =>
      rcases (remove_eq_ok_iff d e p).mp hr with ⟨k, bs, hk, hget, hp, -⟩
      have hstored := (stored_eq_some_iff d p bs).mpr ⟨k, hk, hget, hp⟩
      exact absurd (h.symm.trans hstored) (by simp only [reduceCtorEq, not_false_eq_true])

/-- Where a path leads there is no file afterwards. -/
theorem get?_removeIfThere (d : Disk) (p : String) (k l : Location) (hk : d.locate p = .ok k)
    (hp : namesDirectory p = false) (hdir : d.get? k ≠ some .directory) :
    (removeIfThere d p).get? l = if l = k then none else d.get? l := by
  cases hget : d.get? k with
  | none =>
      have hstored : d.stored p = none := by
        rw [Option.eq_none_iff_forall_ne_some]
        intro bs hbs
        rcases (stored_eq_some_iff d p bs).mp hbs with ⟨k', hk', hget', -⟩
        rw [hk, Except.ok.injEq] at hk'
        rw [← hk', hget] at hget'
        exact absurd hget' (by simp only [reduceCtorEq, not_false_eq_true])
      rw [removeIfThere_of_stored_eq_none d p hstored]
      split
      · rename_i hlk
        rw [hlk, hget]
      · rfl
  | some x =>
      cases x with
      | directory => exact absurd hget hdir
      | file bs =>
          have hremove : d.remove p = .ok (d.erase k) :=
            (remove_eq_ok_iff d _ p).mpr ⟨k, bs, hk, hget, hp, rfl⟩
          unfold removeIfThere
          rw [hremove]
          exact get?_erase d k l (ne_nil_of_get?_ne_directory d k hdir)

theorem here_removeIfThere (d : Disk) (p : String) : (removeIfThere d p).here = d.here := by
  unfold removeIfThere
  cases hr : d.remove p with
  | error f => rfl
  | ok e =>
      rcases (remove_eq_ok_iff d e p).mp hr with ⟨k, bs, -, -, -, he⟩
      rw [he]
      rfl

theorem spares_removeIfThere (d : Disk) (p : String) (k : Location) (hk : d.locate p = .ok k)
    (hp : namesDirectory p = false) (hdir : d.get? k ≠ some .directory) :
    Spares [k] d (removeIfThere d p) := by
  refine spares_of_get? [k] d _ (here_removeIfThere d p) (fun l hl => ?_) (fun l hl => ?_)
  · rw [get?_removeIfThere d p k l hk hp hdir, if_neg fun hc => hl (List.mem_singleton.mpr hc)]
  · rw [List.mem_singleton.mp hl]
    exact hdir

/-- What is left when both temporary files have been taken away. -/
theorem get?_removeBoth (d : Disk) (p q : String) (k l m : Location)
    (hk : d.locate p = .ok k) (hp : namesDirectory p = false) (hkdir : d.get? k ≠ some .directory)
    (hl : d.locate q = .ok l) (hq : namesDirectory q = false)
    (hldir : d.get? l ≠ some .directory) :
    (removeIfThere (removeIfThere d p) q).get? m
      = if m = k ∨ m = l then none else d.get? m := by
  have hspares := spares_removeIfThere d p k hk hp hkdir
  have hget := fun n => get?_removeIfThere d p k n hk hp hkdir
  have hldir' : (removeIfThere d p).get? l ≠ some .directory := by
    rw [hget l]
    split
    · simp only [ne_eq, reduceCtorEq, not_false_eq_true]
    · exact hldir
  rw [get?_removeIfThere _ q l m (hspares.locate [k] d _ q l hl) hq hldir', hget m]
  by_cases hml : m = l
  · rw [if_pos hml, if_pos (Or.inr hml)]
  · rw [if_neg hml]
    simp only [hml, or_false]

/-- Taking both temporary files away spares everything else. -/
theorem spares_removeBoth (d : Disk) (p q : String) (k l : Location)
    (hk : d.locate p = .ok k) (hp : namesDirectory p = false) (hkdir : d.get? k ≠ some .directory)
    (hl : d.locate q = .ok l) (hq : namesDirectory q = false)
    (hldir : d.get? l ≠ some .directory) :
    Spares [k, l] d (removeIfThere (removeIfThere d p) q) := by
  have hmem : ∀ m, m ∈ [k, l] ↔ m = k ∨ m = l := by
    intro m
    rw [List.mem_cons, List.mem_singleton]
  refine spares_of_get? [k, l] _ _ ?_ (fun m hm => ?_) fun m hm => ?_
  · rw [here_removeIfThere, here_removeIfThere]
  · rw [get?_removeBoth d p q k l m hk hp hkdir hl hq hldir,
      if_neg fun hc => hm ((hmem m).mpr hc)]
  · rcases (hmem m).mp hm with rfl | rfl
    · exact hkdir
    · exact hldir

theorem spares_makeParent (d : Disk) (p : String) : Spares [] d (makeParent d p).1 := by
  unfold makeParent
  dsimp only
  split
  · exact Spares.refl d
  · exact spares_makeDirectories d (Path.parent p)

/-- What keeps the parent of an output from being made keeps the temporary file from
    being found. -/
theorem stored_temporaryOf_of_makeParent_error (d e : Disk) (p : String) (f : Fault)
    (h : makeParent d p = (e, .error f)) : e.stored (temporaryOf p) = none := by
  unfold makeParent at h
  dsimp only at h
  split at h
  · exact absurd (Prod.mk.inj h).2 (by simp only [reduceCtorEq, not_false_eq_true])
  · rename_i hparent
    have hnot := isDirectory_of_makeDirectories_error d e (Path.parent p) f h
    have hne : (Path.split (temporaryOf p)).1 ≠ "" := by
      rw [split_temporaryOf]
      exact fun hc => hparent (String.isEmpty_iff.mpr hc)
    rw [Option.eq_none_iff_forall_ne_some]
    intro bs hbs
    rcases (stored_eq_some_iff e _ bs).mp hbs with ⟨k, hk, -, -⟩
    have his := isDirectory_split e _ k hk hne fun hc => by
      rw [split_temporaryOf] at hc
      exact absurd hc (append_temporarySuffix_ne _ _ (by decide))
    rw [split_temporaryOf] at his
    exact absurd his (Bool.eq_false_iff.mp hnot)

theorem stored_of_write_error (d : Disk) (p : String) (bs : List UInt8) (f : Fault)
    (h : d.write p bs = .error f) : d.stored p = none := by
  rw [Option.eq_none_iff_forall_ne_some]
  intro cs hcs
  rcases (stored_eq_some_iff d p cs).mp hcs with ⟨k, hk, hget, hp⟩
  have hdir := ne_directory_of_file d k cs hget
  have hok := (write_eq_ok_iff d _ p bs).mpr ⟨k, hk, hdir, hp, rfl⟩
  exact absurd (h.symm.trans hok) (by simp only [reduceCtorEq, not_false_eq_true])

theorem refuse_of_stored_eq_none (d : Disk) (temporary target : String) (f : Fault)
    (h : d.stored temporary = none) : (refuse d temporary target f).1 = d := by
  unfold refuse
  split
  · rfl
  · exact removeIfThere_of_stored_eq_none d temporary h

theorem refuse_ne_ok (d e : Disk) (temporary target : String) (f : Fault) (staged : Staged) :
    refuse d temporary target f ≠ (e, .ok staged) := by
  intro h
  unfold refuse at h
  split at h
  · exact absurd (Prod.mk.inj h).2 (by simp only [reduceCtorEq, not_false_eq_true])
  · exact absurd (Prod.mk.inj h).2 (by simp only [reduceCtorEq, not_false_eq_true])

/-- Everything that staging has done when it succeeds. -/
theorem stage_cases (d e : Disk) (p text : String) (staged : Staged)
    (h : stage d (.text p) text = (e, .ok staged)) :
    d.isDirectory p = false ∧ staged = ⟨temporaryOf p, p⟩ ∧
      ∃ d', makeParent d p = (d', .ok ()) ∧
        d'.write (temporaryOf p) (Text.encode text) = .ok e := by
  change stagePath d p text = (e, .ok staged) at h
  unfold stagePath at h
  split at h
  · exact absurd (Prod.mk.inj h).2 (by simp only [reduceCtorEq, not_false_eq_true])
  · rename_i hdirectory
    rcases hmade : makeParent d p with ⟨d', f | u⟩ <;> rw [hmade] at h
    · exact absurd h (refuse_ne_ok d' e _ p f staged)
    · dsimp only at h
      split at h
      · exact absurd h (refuse_ne_ok d' e _ p _ staged)
      · rename_i d'' hwrite
        rcases Prod.mk.inj h with ⟨rfl, hstaged⟩
        exact ⟨Bool.eq_false_iff.mpr hdirectory, (Except.ok.inj hstaged).symm, d', rfl, hwrite⟩

/-- Staging that fails touches no file. -/
theorem stage_failure (d e : Disk) (p text : String) (x : Halt)
    (h : stage d (.text p) text = (e, .error x)) : Spares [] d e := by
  change stagePath d p text = (e, .error x) at h
  unfold stagePath at h
  split at h
  · rw [← (Prod.mk.inj h).1]
    exact Spares.refl d
  · have hparent := spares_makeParent d p
    rcases hmade : makeParent d p with ⟨d', f | u⟩ <;> rw [hmade] at h hparent
    · have hnone := stored_temporaryOf_of_makeParent_error d d' p f hmade
      have he := refuse_of_stored_eq_none d' _ p f hnone
      rw [show refuse d' (temporaryOf p) p f = (e, .error x) from h] at he
      rw [show e = d' from he]
      exact hparent
    · dsimp only at h
      split at h
      · rename_i f hwrite
        have hnone := stored_of_write_error d' _ _ f hwrite
        have he := refuse_of_stored_eq_none d' _ p f hnone
        rw [h] at he
        rw [show e = d' from he]
        exact hparent
      · exact absurd (Prod.mk.inj h).2 (by simp only [reduceCtorEq, not_false_eq_true])

/-- Staging that succeeds writes the temporary file and touches no other. -/
theorem stage_ok (d e : Disk) (p text : String) (staged : Staged)
    (h : stage d (.text p) text = (e, .ok staged)) : staged = ⟨temporaryOf p, p⟩ ∧
      ∃ k, e.locate (temporaryOf p) = .ok k ∧ Spares [k] d e ∧
        e.get? k = some (.file (Text.encode text)) := by
  rcases stage_cases d e p text staged h with ⟨-, hstaged, d', hmade, hwrite⟩
  have hparent := spares_makeParent d p
  rw [hmade] at hparent
  rcases (write_eq_ok_iff d' e _ _).mp hwrite with ⟨k, hk, hdir, -, rfl⟩
  have hput := spares_put d' k (Text.encode text) hdir
  refine ⟨hstaged, k, hput.locate [k] d' _ _ k hk, hparent.trans [] [k] d d' _ hput, ?_⟩
  rw [get?_put d' k k _ (ne_nil_of_get?_ne_directory d' k hdir), if_pos rfl]

end OpcodeForge.Output
