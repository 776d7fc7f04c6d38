import OpcodeForge.Proofs.Disk.Destinations
import OpcodeForge.Proofs.Output.Keeping

/-!
# What a Failed Write Leaves Behind

A write that fails takes its temporary files away again. So if there were none before it then
there should be none after it, and no file should be touched but the outputs. At whichever
step the write fails, all that it has touched are the places of the temporary files that it
got to and the first output (`Output.Cleared`), and at the former nothing is left.

This does not settle what is found at a path. A path that goes into a directory and comes back
out of it leads nowhere while the directory is missing, and staging makes the directory. Then
the path of a temporary file can lead to a file that was there all along. If the temporary file
has not been written by then, the old file is found in its place (`Uncovers`). If it has, the
old file was overwritten and is taken away (`Output.Consumes`). Nothing else can go wrong, so
a failed write leaves nothing if there was no file where the names of these paths stand for.

## Main definitions

* `Output.Consumes`: A temporary file has taken an older file with it.
* `Output.IsTemporary`: The path of a temporary file leads to a location.
* `Output.Cleared`: What a write has touched, and that its temporary files are gone.
* `Output.LeavesNothing`: No temporary file is left, and no file but the outputs is changed.

## Theorems

* `Output.not_uncovers_of_free`, `Output.not_consumes_of_free`: A path that stands for
  no old file comes to lead to none.
* `Output.Cleared.stored_temporary_iff`: When no file is at the path of a temporary file.
* `Output.Cleared.others_iff`: When all files but the outputs are kept.
* `Output.Cleared.leavesNothing_iff`: When a write leaves nothing.
* `Output.exists_cleared`: Every write that fails has cleared its temporary files away.
* `Output.write_clears_iff`: What a failed write leaves behind.
-/

namespace OpcodeForge.Output

open Disk

/-- The temporary file for the output `r` was written over an older file, which its path did
    not lead to before. That file is none of the two outputs, and it is gone. -/
def Consumes (d e : Disk) (p q r : String) : Prop :=
  (∃ f, d.locate (temporaryOf r) = .error f) ∧
    ∃ k bs, e.locate (temporaryOf r) = .ok k ∧ d.get? k = some (.file bs) ∧ e.get? k = none ∧
      k ≠ d.destination p ∧ k ≠ d.destination q

/-- The path of one of the temporary files leads to a location. -/
def IsTemporary (e : Disk) (p q : String) (k : Location) : Prop :=
  e.locate (temporaryOf p) = .ok k ∨ e.locate (temporaryOf q) = .ok k

/-- Apart from the first output, only the places of temporary files have been touched, and
    there is nothing now. -/
structure Cleared (d e : Disk) (p q : String) (touched : List Location) : Prop where
  spares : Spares touched d e
  gone : ∀ k ∈ touched, IsTemporary e p q k → e.get? k = none
  places : ∀ k ∈ touched, IsTemporary e p q k ∨ k = d.destination p

/-- No file is at the path of a temporary file, and all files but the outputs are as they
    were. -/
structure LeavesNothing (d e : Disk) (p q : String) : Prop where
  first : e.stored (temporaryOf p) = none
  second : e.stored (temporaryOf q) = none
  others : ∀ k, k ≠ d.destination p → k ≠ d.destination q → ∀ bs,
    e.get? k = some (.file bs) ↔ d.get? k = some (.file bs)

/-- A path that leads to an old file stands for the place of an old file. -/
theorem get?_destination_of_locate (d e : Disk) (t : List Location) (h : Spares t d e)
    (p : String) (k : Location) (bs : List UInt8) (hk : e.locate p = .ok k)
    (hget : d.get? k = some (.file bs)) : d.get? (d.destination p) = some (.file bs) := by
  rw [← destination_congr d e h.here, ← eq_destination_of_locate e p k hk]
  exact hget

theorem not_uncovers_of_free (d e : Disk) (t : List Location) (h : Spares t d e) (p : String)
    (hfree : ∀ bs, d.get? (d.destination p) ≠ some (.file bs)) : ¬Uncovers d e p := by
  rintro ⟨-, -, k, bs, hk, hget, -⟩
  exact hfree bs (get?_destination_of_locate d e t h p k bs hk hget)

theorem not_consumes_of_free (d e : Disk) (t : List Location) (h : Spares t d e)
    (p q r : String) (hfree : ∀ bs, d.get? (d.destination (temporaryOf r)) ≠ some (.file bs)) :
    ¬Consumes d e p q r := by
  rintro ⟨-, k, bs, hk, hget, -⟩
  exact hfree bs (get?_destination_of_locate d e t h _ k bs hk hget)

theorem isTemporary_of_locate (e : Disk) (p q r : String) (k : Location) (hr : r = p ∨ r = q)
    (hk : e.locate (temporaryOf r) = .ok k) : IsTemporary e p q k := by
  rcases hr with rfl | rfl
  · exact Or.inl hk
  · exact Or.inr hk

/-- A file that a temporary file has taken with it was not at the path before, for there was
    nothing at the path. -/
theorem consumes_of_gone (d e : Disk) (t : List Location) (h : Spares t d e) (p q r : String)
    (k : Location) (bs : List UInt8) (hnone : d.stored (temporaryOf r) = none)
    (hk : e.locate (temporaryOf r) = .ok k) (hget : d.get? k = some (.file bs))
    (hgone : e.get? k = none) (hp : k ≠ d.destination p) (hq : k ≠ d.destination q) :
    Consumes d e p q r := by
  cases hd : d.locate (temporaryOf r) with
  | error f => exact ⟨⟨f, hd⟩, k, bs, hk, hget, hgone, hp, hq⟩
  | ok k' =>
      have hkk : k = k' := Except.ok.inj (hk.symm.trans (h.locate t d e _ k' hd))
      have hstored := (stored_of_locate d _ k' hd (namesDirectory_temporaryOf r) bs).mpr
        (hkk ▸ hget)
      exact absurd (hnone.symm.trans hstored) (by simp only [reduceCtorEq, not_false_eq_true])

namespace Cleared

variable (d e : Disk) (p q : String) (touched : List Location)

/-- A file that is found at the path of a temporary file is an old one, and the path did not
    lead to it before. -/
theorem stored_temporary_iff (h : Cleared d e p q touched) (r : String) (hr : r = p ∨ r = q)
    (hnone : d.stored (temporaryOf r) = none) :
    e.stored (temporaryOf r) = none ↔ ¬Uncovers d e (temporaryOf r) := by
  constructor
  · exact fun he => not_uncovers_of_stored_eq d e _ (he.trans hnone.symm)
  · intro hnot
    rw [Option.eq_none_iff_forall_ne_some]
    intro bs hbs
    rcases (stored_eq_some_iff e _ bs).mp hbs with ⟨k, hk, hget, hname⟩
    have hmem : k ∉ touched := fun hmem =>
      absurd ((h.gone k hmem (isTemporary_of_locate e p q r k hr hk)).symm.trans hget)
        (by simp only [reduceCtorEq, not_false_eq_true])
    have hold := (h.spares.file k hmem bs).mp hget
    have hstored := stored_of_stored d e touched h.spares _ k bs hk hname hold hget hnot
    exact absurd (hnone.symm.trans hstored) (by simp only [reduceCtorEq, not_false_eq_true])

/-- A file that is none of the outputs is lost only to a temporary file. -/
theorem others_iff (h : Cleared d e p q touched) (hp : d.stored (temporaryOf p) = none)
    (hq : d.stored (temporaryOf q) = none) :
    (∀ k, k ≠ d.destination p → k ≠ d.destination q → ∀ bs,
        e.get? k = some (.file bs) ↔ d.get? k = some (.file bs)) ↔
      ¬Consumes d e p q p ∧ ¬Consumes d e p q q := by
  constructor
  · intro hkeep
    have hnot : ∀ r, ¬Consumes d e p q r := by
      rintro r ⟨-, k, bs, -, hget, hgone, hkp, hkq⟩
      have hget' := (hkeep k hkp hkq bs).mpr hget
      exact absurd (hgone.symm.trans hget') (by simp only [reduceCtorEq, not_false_eq_true])
    exact ⟨hnot p, hnot q⟩
  · rintro ⟨hnotp, hnotq⟩ k hkp hkq bs
    by_cases hmem : k ∈ touched
    · have htemp : IsTemporary e p q k := (h.places k hmem).resolve_right hkp
      have hgone := h.gone k hmem htemp
      have hnotfile : d.get? k ≠ some (.file bs) := by
        intro hget
        rcases htemp with hk | hk
        · exact hnotp (consumes_of_gone d e touched h.spares p q p k bs hp hk hget hgone hkp hkq)
        · exact hnotq (consumes_of_gone d e touched h.spares p q q k bs hq hk hget hgone hkp hkq)
      simp only [hgone, reduceCtorEq, hnotfile]
    · exact h.spares.file k hmem bs

theorem leavesNothing_iff (h : Cleared d e p q touched) (hp : d.stored (temporaryOf p) = none)
    (hq : d.stored (temporaryOf q) = none) : LeavesNothing d e p q ↔
      (¬Uncovers d e (temporaryOf p) ∧ ¬Uncovers d e (temporaryOf q)) ∧
        ¬Consumes d e p q p ∧ ¬Consumes d e p q q := by
  have hfirst := h.stored_temporary_iff d e p q touched p (Or.inl rfl) hp
  have hsecond := h.stored_temporary_iff d e p q touched q (Or.inr rfl) hq
  have hothers := h.others_iff d e p q touched hp hq
  constructor
  · rintro ⟨hgonep, hgoneq, hkeep⟩
    exact ⟨⟨hfirst.mp hgonep, hsecond.mp hgoneq⟩, hothers.mp hkeep⟩
  · rintro ⟨⟨hnotp, hnotq⟩, hnot⟩
    exact ⟨hfirst.mpr hnotp, hsecond.mpr hnotq, hothers.mpr hnot⟩

end Cleared

/-- Once both texts are staged, a write that fails takes both temporary files away. -/
theorem BothStaged.cleared (d d' e : Disk) (p q first second : String) (k l : Location)
    (h : BothStaged d d' p q first second k l)
    (he : e = removeIfThere (removeIfThere d' (temporaryOf p)) (temporaryOf q)) :
    Cleared d e p q [k, l] := by
  rcases h.discarded d d' e p q first second k l he with ⟨hspares, hgone, hk, hl⟩
  refine ⟨hspares, fun x hx _ => hgone x hx, fun x hx => Or.inl ?_⟩
  rcases List.mem_cons.mp hx with rfl | hx
  · exact Or.inl hk
  · exact Or.inr (List.mem_singleton.mp hx ▸ hl)

/-- The same holds if the first output is in place by then. -/
theorem Moved.cleared (d e : Disk) (p q first second : String) (k l m : Location)
    (h : Moved d e p q first second k l m) : Cleared d e p q [k, l, m] := by
  refine ⟨h.spares, fun x _ htemp => ?_, fun x hx => ?_⟩
  · rcases htemp with hx | hx
    · rw [Except.ok.inj (hx.symm.trans h.locate_first)]
      exact h.gone_first
    · rw [Except.ok.inj (hx.symm.trans h.locate_second)]
      exact h.gone_second
  · simp only [List.mem_cons, List.not_mem_nil, or_false] at hx
    rcases hx with rfl | rfl | rfl
    · exact Or.inl (Or.inl h.locate_first)
    · exact Or.inl (Or.inr h.locate_second)
    · refine Or.inr ?_
      rw [eq_destination_of_locate e p x h.locate_target, destination_congr d e h.spares.here]

/-- Every write that fails has cleared its temporary files away, at whichever step it fails. -/
theorem exists_cleared (d e : Disk) (p q first second : String) (log : List Log.Line)
    (f : Failure)
    (h : write d (.text p) (.text q) first second = ⟨e, log, .error (.failure f)⟩) :
    ∃ touched, Cleared d e p q touched := by
  rcases write_failure_cases d e p q first second log f h with
    ⟨hfirst, -⟩ | ⟨d', a, d'', ha, hsecond, he, -⟩ | ⟨d', a, d'', b, ha, hb, hplace⟩
  · exact ⟨[], stage_failure d e p first _ hfirst, fun _ hk => absurd hk List.not_mem_nil,
      fun _ hk => absurd hk List.not_mem_nil⟩
  · rcases spares_of_second_error d d' d'' p q first second a _ ha hsecond e he with
      ⟨k, hk, hspares, hgone⟩
    refine ⟨[k], hspares, fun x hx _ => ?_, fun x hx => Or.inl (Or.inl ?_)⟩
    · rw [List.mem_singleton.mp hx]
      exact hgone
    · rw [List.mem_singleton.mp hx]
      exact hk
  · rcases bothStaged_of_stage d d' d'' p q first second a b ha hb with ⟨k, l, hboth⟩
    rcases hplace with ⟨-, he, -⟩ | ⟨d₃, hrename, -, he, -⟩
    · exact ⟨[k, l], hboth.cleared d d'' e p q first second k l he⟩
    · rcases moved_of_rename d d'' d₃ e p q first second k l hboth hrename he with ⟨m, hmoved⟩
      exact ⟨[k, l, m], hmoved.cleared d e p q first second k l m⟩

/-- If no file was at the paths of the temporary files, then a write that fails takes no
    directory away. It leaves nothing exactly if neither path has come to lead to an older file,
    be it found there or lost there. In particular it leaves nothing if there was no file where
    the names of the two paths stand for, be the directories on the way there or not. -/
theorem write_clears_iff (d e : Disk) (p q first second target : String) (fault : WriteFault)
    (log : List Log.Line)
    (h : write d (.text p) (.text q) first second
      = ⟨e, log, .error (.failure (.outputWrite target fault))⟩)
    (hp : d.stored (temporaryOf p) = none) (hq : d.stored (temporaryOf q) = none) :
    (∀ k, d.get? k = some .directory → e.get? k = some .directory) ∧
      (LeavesNothing d e p q ↔
        (¬Uncovers d e (temporaryOf p) ∧ ¬Uncovers d e (temporaryOf q)) ∧
          ¬Consumes d e p q p ∧ ¬Consumes d e p q q) ∧
      ((∀ bs, d.get? (d.destination (temporaryOf p)) ≠ some (.file bs)) →
        (∀ bs, d.get? (d.destination (temporaryOf q)) ≠ some (.file bs)) →
          LeavesNothing d e p q) := by
  rcases exists_cleared d e p q first second log _ h with ⟨touched, hcleared⟩
  have hspares := hcleared.spares
  have hiff := hcleared.leavesNothing_iff d e p q touched hp hq
  refine ⟨hspares.directory, hiff, fun hfreep hfreeq => hiff.mpr ⟨⟨?_, ?_⟩, ?_, ?_⟩⟩
  · exact not_uncovers_of_free d e touched hspares _ hfreep
  · exact not_uncovers_of_free d e touched hspares _ hfreeq
  · exact not_consumes_of_free d e touched hspares p q p hfreep
  · exact not_consumes_of_free d e touched hspares p q q hfreeq

/-- A disk with one file, which is not an output. -/
def oneNote : Disk :=
  ⟨["w"], [(["w"], .directory), (["w", "note"], .file [33])]⟩

/-- The disk after a write of both outputs to one path. -/
def oneOutput : Disk :=
  ⟨["w"], [(["w"], .directory), (["w", "note"], .file [33]), (["w", "a.rs"], .file [66])]⟩

set_option maxRecDepth 4000 in
/-- Two outputs at one path have one temporary file, which the second rename does not find any
    more. -/
theorem write_clears_iff_samePath :
    write oneNote (.text "a.rs") (.text "a.rs") "A" "B" = ⟨oneOutput, [wroteLine "a.rs" 1],
        .error (.failure (.outputWrite "a.rs" (.refused .notFound)))⟩ ∧
      oneNote.stored (temporaryOf "a.rs") = none ∧
      LeavesNothing oneNote oneOutput "a.rs" "a.rs" := by
  have hwrite : write oneNote (.text "a.rs") (.text "a.rs") "A" "B"
      = ⟨oneOutput, [wroteLine "a.rs" 1],
        .error (.failure (.outputWrite "a.rs" (.refused .notFound)))⟩ := rfl
  have hnone : oneNote.stored (temporaryOf "a.rs") = none := by decide
  have hfree : ∀ bs, oneNote.get? (oneNote.destination (temporaryOf "a.rs")) ≠ some (.file bs) := by
    intro bs hget
    exact absurd (hget.symm.trans (show _ = none by decide)) (by
      simp only [reduceCtorEq, not_false_eq_true])
  exact ⟨hwrite, hnone, (write_clears_iff oneNote oneOutput "a.rs" "a.rs" "A" "B" "a.rs" _ _ hwrite
    hnone hnone).2.2 hfree hfree⟩

/-- A disk with a file whose name ends as those of temporary files do, and a directory. -/
def strayTemporary : Disk :=
  ⟨["w"], [(["w"], .directory), (["w", "a.rs.tmp"], .file [107]), (["w", "out"], .directory)]⟩

/-- The same disk without the file, and with the directory of a detour. -/
def lostTemporary : Disk :=
  ⟨["w"], [(["w"], .directory), (["w", "out"], .directory), (["w", "x"], .directory)]⟩

set_option maxRecDepth 4000 in
/-- The path of the first temporary file leads nowhere at first, and to the stray file when the
    detour is open. The second output is a directory, so the write fails and takes the file
    away, which is none of the outputs. -/
theorem write_consumes_strayTemporary :
    strayTemporary.stored (temporaryOf "x/../a.rs") = none ∧
      strayTemporary.stored (temporaryOf "out") = none ∧
      write strayTemporary (.text "x/../a.rs") (.text "out") "A" "B"
        = ⟨lostTemporary, [], .error (.failure (.outputWrite "out" .isDirectory))⟩ ∧
      ¬LeavesNothing strayTemporary lostTemporary "x/../a.rs" "out" := by
  refine ⟨by decide, by decide, rfl, fun hnothing => ?_⟩
  have hlost := (hnothing.others ["w", "a.rs.tmp"] (by decide) (by decide) [107]).mpr (by decide)
  exact absurd hlost (by decide)

end OpcodeForge.Output
