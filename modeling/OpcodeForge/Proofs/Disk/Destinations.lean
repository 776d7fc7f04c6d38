import OpcodeForge.Proofs.Disk.Directories

/-!
# Where Paths Lead To

Without links a path can only lead to one location, and that can be computed from its names
alone: a name goes down, two dots go up, and one dot stays. Whether the path gets there is a
matter of the directories on the way. So a path has a destination even where directories are
missing, and when they are there then it is found at its destination and nowhere else
(`Disk.eq_destination_of_locate`).

Making a directory makes those that it lies in first, and each of them is named by the beginning
of a path. The beginnings are taken name by name (`Path.Begins`): a name that is cut off in the
middle is none.

## Main definitions

* `Path.Begins`: A path that another one begins with.
* `Disk.destination`: The location that the names of a path stand for.
* `Disk.MakesOnly`: Every new directory is the destination of a path of some kind.

## Theorems

* `Path.begins_split`, `Disk.begins_splitDirectory`: A path begins with its parents.
* `Disk.eq_destination_of_locate`: A path is found at its destination.
* `Disk.Spares.stored`: What is stored at a path stays, if nothing happens at its destination.
* `Disk.MakesOnly.trans`: What two operations make, one after the other makes.
* `Disk.makesOnly_makeDirectories`: Only beginnings of a path are made.
-/

namespace OpcodeForge

namespace Path

/-- A path that another one begins with, name by name. -/
structure Begins (r p : String) : Prop where
  text : r.toList <+: p.toList
  names : segments r <+: segments p

theorem Begins.refl (p : String) : Begins p p :=
  ⟨List.prefix_refl _, List.prefix_refl _⟩

theorem Begins.trans (r s p : String) (h : Begins r s) (h' : Begins s p) : Begins r p :=
  ⟨h.text.trans h'.text, h.names.trans h'.names⟩

/-- A path begins with its parent. -/
theorem begins_split (p : String) : Begins (split p).1 p := by
  rcases exists_eq_split_append p with ⟨more, hmore⟩
  exact ⟨⟨more, hmore.symm⟩, _, (segments_split p).symm⟩

end Path

namespace Disk

open OpcodeForge.Path (Begins)

theorem begins_splitDirectory (p : String) : Begins (splitDirectory p).1 p := by
  unfold splitDirectory
  split
  · exact (Path.begins_split _).trans _ _ _ (Path.begins_split p)
  · exact Path.begins_split p

/-- The location that the names of a path stand for, be there an entry or not. -/
def destination (d : Disk) (p : String) : Location :=
  Path.straighten (d.origin p).reverse (Path.segments p)

theorem destination_congr (d e : Disk) (h : e.here = d.here) (p : String) :
    e.destination p = d.destination p := by
  unfold destination origin
  rw [h]

/-- Names that can be followed lead where they stand for. -/
theorem eq_straighten_of_walk (d : Disk) (names : List String) :
    ∀ l r, d.walk l names = .ok r → r = Path.straighten l.reverse names := by
  induction names with
  | nil =>
      intro l r h
      rw [Path.straighten, List.reverse_reverse]
      exact (Except.ok.inj h).symm
  | cons s rest ih =>
      intro l r h
      rcases (walk_cons_eq_ok_iff d l r s rest).mp h with ⟨-, m, hm, hr⟩
      rw [ih m r hr, Path.straighten]
      unfold next at hm
      split at hm
      · rename_i hdot
        rw [if_pos hdot, Except.ok.inj hm]
      · rename_i hdot
        rw [if_neg hdot]
        split at hm
        · rename_i hdots
          rw [if_pos hdots, ← Except.ok.inj hm, List.tail_reverse]
        · rename_i hdots
          rw [if_neg hdots]
          split at hm
          · exact absurd hm (by simp only [reduceCtorEq, not_false_eq_true])
          · rw [← Except.ok.inj hm, List.reverse_append]
            rfl

/-- A path is found at its destination. -/
theorem eq_destination_of_locate (d : Disk) (p : String) (k : Location)
    (h : d.locate p = .ok k) : k = d.destination p :=
  eq_straighten_of_walk d _ _ k ((locate_eq_ok_iff d p k).mp h).2.2.2

/-- What is stored at a path stays there, if its destination is not touched. -/
theorem Spares.stored (t : List Location) (d e : Disk) (h : Spares t d e) (p : String)
    (bs : List UInt8) (hp : d.destination p ∉ t) (hd : d.stored p = some bs) :
    e.stored p = some bs := by
  rcases (stored_eq_some_iff d p bs).mp hd with ⟨k, hk, hget, hname⟩
  rw [← eq_destination_of_locate d p k hk] at hp
  exact (stored_eq_some_iff e p bs).mpr
    ⟨k, h.locate t d e p k hk, (h.file k hp bs).mpr hget, hname⟩

/-- Every new directory is the destination of a path of some kind. -/
structure MakesOnly (kind : String → Prop) (d e : Disk) : Prop where
  here : e.here = d.here
  directory : ∀ k, e.get? k = some .directory →
    d.get? k = some .directory ∨ ∃ r, kind r ∧ d.destination r = k

section

variable (kind : String → Prop) (d e f : Disk)

theorem MakesOnly.refl : MakesOnly kind d d :=
  ⟨rfl, fun _ h => Or.inl h⟩

theorem MakesOnly.trans (h : MakesOnly kind d e) (h' : MakesOnly kind e f) :
    MakesOnly kind d f := by
  refine ⟨h'.here.trans h.here, fun k hk => ?_⟩
  rcases h'.directory k hk with hk | ⟨r, hr, hdest⟩
  · exact h.directory k hk
  · exact Or.inr ⟨r, hr, by rw [← hdest, destination_congr d e h.here]⟩

theorem MakesOnly.mono (kind' : String → Prop) (h : MakesOnly kind d e)
    (hsub : ∀ r, kind r → kind' r) : MakesOnly kind' d e := by
  refine ⟨h.here, fun k hk => ?_⟩
  rcases h.directory k hk with hk | ⟨r, hr, hdest⟩
  · exact Or.inl hk
  · exact Or.inr ⟨r, hsub r hr, hdest⟩

/-- Where nothing becomes a directory, none is made. -/
theorem makesOnly_of_get? (hhere : e.here = d.here)
    (hdir : ∀ k, e.get? k = some .directory → d.get? k = some .directory) :
    MakesOnly kind d e :=
  ⟨hhere, fun k hk => Or.inl (hdir k hk)⟩

end

theorem makesOnly_put (kind : String → Prop) (d : Disk) (k : Location) (bs : List UInt8)
    (hk : d.get? k ≠ some .directory) : MakesOnly kind d (d.put k (.file bs)) := by
  refine makesOnly_of_get? kind d _ rfl fun l hl => ?_
  rw [get?_put d k l _ (ne_nil_of_get?_ne_directory d k hk)] at hl
  split at hl
  · exact absurd hl (by simp only [Option.some.injEq, reduceCtorEq, not_false_eq_true])
  · exact hl

theorem makesOnly_makeDirectory (d e : Disk) (p : String) (h : d.makeDirectory p = .ok e) :
    MakesOnly (Begins · p) d e := by
  rcases (makeDirectory_eq_ok_iff d e p).mp h with ⟨k, hk, hnone, rfl⟩
  have hroot := ne_nil_of_get?_ne_directory d k (ne_directory_of_none d k hnone)
  refine ⟨rfl, fun l hl => ?_⟩
  rw [get?_put d k l _ hroot] at hl
  split at hl
  · rename_i hlk
    exact Or.inr ⟨p, Begins.refl p, by rw [hlk, eq_destination_of_locate d p k hk]⟩
  · exact Or.inl hl

theorem makesOnly_makeLast (d : Disk) (p : String) :
    MakesOnly (Begins · p) d (makeLast d p).1 := by
  unfold makeLast
  cases hdir : d.makeDirectory p with
  | ok e => exact makesOnly_makeDirectory d e p hdir
  | error f =>
      dsimp only
      split
      · exact MakesOnly.refl _ d
      · exact MakesOnly.refl _ d

theorem makesOnly_makeDirectoriesFrom (fuel : Nat) :
    ∀ d p, MakesOnly (Begins · p) d (makeDirectoriesFrom fuel d p).1 := by
  induction fuel with
  | zero => exact fun d p => MakesOnly.refl _ d
  | succ fuel ih =>
      intro d p
      have hhead : MakesOnly (Begins · p) d (makeHead fuel d p).1 := by
        rcases makeHead_disk fuel d p with heq | heq
        · rw [heq]
          exact MakesOnly.refl _ d
        · rw [heq]
          exact (ih d _).mono _ d _ _ fun r hr => hr.trans r _ p (begins_splitDirectory p)
      rw [makeDirectoriesFrom_succ]
      rcases hmade : makeHead fuel d p with ⟨d', f | made⟩ <;> rw [hmade] at hhead
      · exact hhead
      · cases made with
        | true => exact hhead
        | false => exact hhead.trans _ d d' _ (makesOnly_makeLast d' p)

/-- Making directories makes only those that a path begins with. -/
theorem makesOnly_makeDirectories (d : Disk) (p : String) :
    MakesOnly (Begins · p) d (d.makeDirectories p).1 :=
  makesOnly_makeDirectoriesFrom (p.length + 1) d p

end Disk

end OpcodeForge
