import Mathlib.Data.List.TakeWhile
import OpcodeForge.Proofs.Disk.Spares
import OpcodeForge.Proofs.Text.Pieces

/-!
# Making Directories

A path lies in the directory that its parent leads to. This ties the text of a path,
which is cut at its last slash, to the names that are followed on the disk, where
slashes that stand in a row or at the end count for nothing.

Directories are made from the root down, each in its parent, and what is made stays
even if a later one cannot be made. So making directories touches no file
(`spares_makeDirectories`), and when it reports a fault then the directory is really
not there (`isDirectory_of_makeDirectories_error`): a directory that exists is never
taken for a fault.

## Main definitions

* `Path.namesOf`: The names in a text.
* `Disk.splitDirectory`: The parent of a directory and its own name.

## Theorems

* `Path.segments_split`: The names of a path are those of its parent and its own.
* `Disk.locate_split`: A path lies in the directory that its parent leads to.
* `Disk.makeDirectories_of_isDirectory`: A directory that is there is not made again.
* `Disk.spares_makeDirectories`: Making directories touches no file.
* `Disk.isDirectory_of_makeDirectories_error`: A directory that cannot be made is not
  there.
* `Disk.contains_nul_of_makeDirectoriesFrom_error`: What is no name is found in the path.
-/

namespace OpcodeForge

namespace Path

/-- The names in a text: what stands between its slashes, as far as it is not empty. -/
def namesOf (cs : List Char) : List (List Char) :=
  (Text.pieces '/' cs).filter (· ≠ [])

theorem segments_eq (p : String) : segments p = (namesOf p.toList).map String.ofList := rfl

theorem namesOf_append_slash (cs ds : List Char) :
    namesOf (cs ++ '/' :: ds) = namesOf cs ++ namesOf ds := by
  unfold namesOf
  rw [Text.pieces_append_cons, List.filter_append]

/-- Slashes at the end of a text are between nothing. -/
theorem namesOf_append_slashes (cs ds : List Char) (h : ∀ c ∈ ds, c = '/') :
    namesOf (cs ++ ds) = namesOf cs := by
  induction ds generalizing cs with
  | nil => rw [List.append_nil]
  | cons c rest ih =>
      have hc : c = '/' := h c List.mem_cons_self
      rw [hc, List.append_cons, ih _ fun d hd => h d (List.mem_cons_of_mem c hd),
        namesOf_append_slash]
      exact List.append_nil _

theorem dropEndSlashes_append (cs : List Char) :
    ∃ slashes, cs = dropEndSlashes cs ++ slashes ∧ ∀ c ∈ slashes, c = '/' := by
  unfold dropEndSlashes
  split
  · exact ⟨[], (List.append_nil cs).symm, fun c hc => absurd hc List.not_mem_nil⟩
  · refine ⟨(cs.reverse.takeWhile (· == '/')).reverse, ?_, fun c hc => ?_⟩
    · rw [← List.reverse_append, List.takeWhile_append_dropWhile, List.reverse_reverse]
    · have hmem := List.mem_takeWhile_imp (List.mem_reverse.mp hc)
      exact eq_of_beq hmem

/-- A path is its own name alone, or it has a part up to its last slash, and its parent
    is that part without the slashes at its end. -/
theorem split_cases (p : String) :
    '/' ∉ (split p).2.toList ∧
      (((split p).1 = "" ∧ p.toList = (split p).2.toList) ∨
        ∃ dir, p.toList = dir ++ '/' :: (split p).2.toList ∧
          (split p).1.toList = dropEndSlashes (dir ++ ['/'])) := by
  have hparts : p.toList = (p.toList.reverse.dropWhile (· ≠ '/')).reverse
      ++ (p.toList.reverse.takeWhile (· ≠ '/')).reverse := by
    rw [← List.reverse_append, List.takeWhile_append_dropWhile, List.reverse_reverse]
  have htail : (split p).2.toList = (p.toList.reverse.takeWhile (· ≠ '/')).reverse :=
    String.toList_ofList
  have hhead : (split p).1.toList
      = dropEndSlashes (p.toList.reverse.dropWhile (· ≠ '/')).reverse := String.toList_ofList
  refine ⟨fun hc => ?_, ?_⟩
  · rw [htail, List.mem_reverse] at hc
    exact absurd (List.mem_takeWhile_imp hc) (by decide)
  · cases hdrop : p.toList.reverse.dropWhile (· ≠ '/') with
    | nil =>
        rw [hdrop] at hparts hhead
        refine Or.inl ⟨String.toList_inj.mp hhead, ?_⟩
        rw [htail]
        exact hparts
    | cons c rest =>
        have hc : c = '/' := by
          have hstop := List.head?_dropWhile_not (· ≠ '/') p.toList.reverse
          rw [hdrop] at hstop
          simpa only [ne_eq, decide_not, Bool.not_eq_eq_eq_not, Bool.not_false,
            decide_eq_true_eq, List.head?_cons] using hstop
        rw [hdrop, hc, List.reverse_cons] at hparts hhead
        refine Or.inr ⟨rest.reverse, ?_, hhead⟩
        rw [htail]
        exact hparts.trans (List.append_assoc _ _ _)

/-- A parent is where a path begins. -/
theorem exists_eq_split_append (p : String) :
    ∃ more, p.toList = (split p).1.toList ++ more := by
  rcases split_cases p with ⟨-, ⟨hhead, htail⟩ | ⟨dir, hp, hhead⟩⟩
  · rw [hhead]
    exact ⟨p.toList, rfl⟩
  · rcases dropEndSlashes_append (dir ++ ['/']) with ⟨slashes, hslashes, -⟩
    refine ⟨slashes ++ (split p).2.toList, ?_⟩
    rw [hhead, ← List.append_assoc, ← hslashes, hp, List.append_assoc]
    rfl

/-- The names of a path are those of its parent, and then its own if it has one. -/
theorem segments_split (p : String) :
    segments p = segments (split p).1 ++ if (split p).2 = "" then [] else [(split p).2] := by
  rcases split_cases p with ⟨hnot, hcases⟩
  have htail : (namesOf (split p).2.toList).map String.ofList
      = if (split p).2 = "" then [] else [(split p).2] := by
    unfold namesOf
    rw [Text.pieces_of_not_mem '/' _ hnot]
    by_cases hempty : (split p).2 = ""
    · rw [if_pos hempty, hempty]
      rfl
    · have hne : (split p).2.toList ≠ [] := fun hc => hempty (String.toList_eq_nil_iff.mp hc)
      rw [if_neg hempty, List.filter_cons_of_pos (by simpa using hne), List.filter_nil,
        List.map_cons, List.map_nil, String.ofList_toList]
  rcases hcases with ⟨hhead, hp⟩ | ⟨dir, hp, hhead⟩
  · rw [segments_eq, hp, htail, hhead]
    rfl
  · rcases dropEndSlashes_append (dir ++ ['/']) with ⟨slashes, hslashes, hall⟩
    have hnames : namesOf (split p).1.toList = namesOf dir := by
      rw [hhead, ← namesOf_append_slashes _ slashes hall, ← hslashes, namesOf_append_slash]
      exact List.append_nil _
    rw [segments_eq, segments_eq, hp, namesOf_append_slash, List.map_append, htail, hnames]

/-- What is added to a path without a slash is added to its own name. -/
theorem split_append (p s : String) (h : '/' ∉ s.toList) :
    split (p ++ s) = ((split p).1, (split p).2 ++ s) := by
  have hall : ∀ c ∈ s.toList.reverse, decide (c ≠ '/') = true := by
    intro c hc
    exact decide_eq_true fun hslash => h (hslash ▸ List.mem_reverse.mp hc)
  unfold split
  rw [String.toList_append, List.reverse_append, List.takeWhile_append_of_pos hall,
    List.dropWhile_append_of_pos hall]
  dsimp only
  rw [List.reverse_append, List.reverse_reverse, String.ofList_append, String.ofList_toList]

end Path

namespace Disk

/-- A path lies in the directory that its parent leads to. -/
theorem locate_split (d : Disk) (p : String) (k : Location) (h : d.locate p = .ok k)
    (hhead : (Path.split p).1 ≠ "") :
    ∃ l, d.locate (Path.split p).1 = .ok l ∧
      d.walk l (if (Path.split p).2 = "" then [] else [(Path.split p).2]) = .ok k := by
  rcases (locate_eq_ok_iff d p k).mp h with ⟨hnul, -, hsize, hwalk⟩
  rcases Path.exists_eq_split_append p with ⟨more, hmore⟩
  have horigin : d.origin (Path.split p).1 = d.origin p := by
    have hne : (Path.split p).1.toList ≠ [] := fun hc => hhead (String.toList_eq_nil_iff.mp hc)
    unfold origin Path.isAbsolute
    rw [hmore, List.head?_append, List.head?_eq_some_head hne]
    rfl
  rw [Path.segments_split, walk_append_eq_ok_iff] at hwalk
  rcases hwalk with ⟨l, hl, hk⟩
  refine ⟨l, (locate_eq_ok_iff d _ l).mpr ⟨?_, ?_, ?_, ?_⟩, hk⟩
  · rw [hmore] at hnul
    exact Bool.eq_false_iff.mpr fun hc => absurd hnul (by
      rw [List.contains_iff_mem] at hc
      simp only [List.contains_eq_mem, List.mem_append, hc, true_or, decide_true,
        Bool.true_eq_false, not_false_eq_true])
  · exact Bool.eq_false_iff.mpr fun hc => hhead (String.isEmpty_iff.mp hc)
  · refine Nat.lt_of_le_of_lt ?_ hsize
    have hp : p = (Path.split p).1 ++ String.ofList more := by
      rw [← String.toList_inj, hmore, String.toList_append, String.toList_ofList]
    conv => rhs; rw [hp]
    rw [String.utf8ByteSize_append]
    exact Nat.le_add_right _ _
  · rw [horigin]
    exact hl

theorem isDirectory_iff (d : Disk) (p : String) :
    d.isDirectory p = true ↔ ∃ k, d.locate p = .ok k ∧ d.get? k = some .directory := by
  unfold isDirectory find?
  cases hl : d.locate p with
  | error f => simp only [reduceCtorEq, false_and, exists_false, beq_iff_eq]
  | ok k =>
      simp only [Except.ok.injEq, exists_eq_left', beq_iff_eq]
      cases hk : d.get? k with
      | none => simp only
      | some x =>
          cases x with
          | directory => simp only
          | file bs =>
              cases namesDirectory p with
              | true => simp only [if_true, reduceCtorEq, Option.some.injEq]
              | false => simp only [Bool.false_eq_true, if_false]

/-- What lies in something shows that this is a directory. -/
theorem isDirectory_split (d : Disk) (p : String) (k : Location) (h : d.locate p = .ok k)
    (hhead : (Path.split p).1 ≠ "") (hk : (Path.split p).2 = "" → d.get? k = some .directory) :
    d.isDirectory (Path.split p).1 = true := by
  rcases locate_split d p k h hhead with ⟨l, hl, hwalk⟩
  refine (isDirectory_iff d _).mpr ⟨l, hl, ?_⟩
  by_cases htail : (Path.split p).2 = ""
  · rw [if_pos htail, walk, Except.ok.injEq] at hwalk
    rw [hwalk]
    exact hk htail
  · rw [if_neg htail] at hwalk
    exact ((walk_cons_eq_ok_iff d l k _ []).mp hwalk).1

/-- The parent of a directory and its own name, whether or not its path ends in a
    slash. -/
def splitDirectory (p : String) : String × String :=
  if (Path.split p).2.isEmpty then Path.split (Path.split p).1 else Path.split p

/-- The parent of a directory is a directory too. -/
theorem isDirectory_splitDirectory (d : Disk) (p : String) (h : d.isDirectory p = true)
    (hhead : (splitDirectory p).1 ≠ "") : d.isDirectory (splitDirectory p).1 = true := by
  rcases (isDirectory_iff d p).mp h with ⟨k, hk, hdir⟩
  unfold splitDirectory at hhead ⊢
  by_cases htail : (Path.split p).2.isEmpty = true
  · rw [if_pos htail] at hhead ⊢
    have hne : (Path.split p).1 ≠ "" := fun hc => hhead (by rw [hc]; rfl)
    rcases (isDirectory_iff d _).mp (isDirectory_split d p k hk hne fun _ => hdir)
      with ⟨l, hl, hdir'⟩
    exact isDirectory_split d _ l hl hhead fun _ => hdir'
  · rw [if_neg htail] at hhead ⊢
    exact isDirectory_split d p k hk hhead fun _ => hdir

/-- The first half of a step of `makeDirectoriesFrom`: the parent is made if it is not
    there. The answer tells whether the directory itself came with it. -/
def makeHead (fuel : Nat) (d : Disk) (p : String) : Disk × Except Fault Bool :=
  if !(splitDirectory p).1.isEmpty && !(splitDirectory p).2.isEmpty
      && !d.contains (splitDirectory p).1 then
    match makeDirectoriesFrom fuel d (splitDirectory p).1 with
    | (d, .error .fileExists) => (d, .ok ((splitDirectory p).2 == "."))
    | (d, .error e) => (d, .error e)
    | (d, .ok ()) => (d, .ok ((splitDirectory p).2 == "."))
  else (d, .ok false)

/-- The second half: the directory itself is made, unless it is there already. -/
def makeLast (d : Disk) (p : String) : Disk × Except Fault Unit :=
  match d.makeDirectory p with
  | .ok d => (d, .ok ())
  | .error e => if d.isDirectory p then (d, .ok ()) else (d, .error e)

theorem makeDirectoriesFrom_succ (fuel : Nat) (d : Disk) (p : String) :
    makeDirectoriesFrom (fuel + 1) d p =
      match makeHead fuel d p with
      | (d, .error e) => (d, .error e)
      | (d, .ok true) => (d, .ok ())
      | (d, .ok false) => makeLast d p := by
  unfold makeDirectoriesFrom makeHead makeLast splitDirectory
  generalize hx : (if (Path.split p).2.isEmpty = true then Path.split (Path.split p).1
    else Path.split p) = x
  simp only [hx]
  cases !x.1.isEmpty && !x.2.isEmpty && !d.contains x.1 with
  | false => rfl
  | true =>
      simp only [if_true]
      rcases makeDirectoriesFrom fuel d x.1 with ⟨d', f | u⟩
      · cases f <;> first | rfl | (cases x.2 == "." <;> rfl)
      · cases x.2 == "." <;> rfl

/-- Whatever comes of it, only the parent has been made. -/
theorem makeHead_disk (fuel : Nat) (d : Disk) (p : String) :
    (makeHead fuel d p).1 = d ∨
      (makeHead fuel d p).1 = (makeDirectoriesFrom fuel d (splitDirectory p).1).1 := by
  unfold makeHead
  split
  · refine Or.inr ?_
    split <;> rename_i heq <;> rw [heq]
  · exact Or.inl rfl

theorem makeHead_error (fuel : Nat) (d e : Disk) (p : String) (f : Fault)
    (h : makeHead fuel d p = (e, .error f)) : (splitDirectory p).1 ≠ "" ∧
      makeDirectoriesFrom fuel d (splitDirectory p).1 = (e, .error f) := by
  unfold makeHead at h
  split at h
  · rename_i hcond
    refine ⟨fun hc => ?_, ?_⟩
    · rw [hc] at hcond
      exact absurd hcond Bool.false_ne_true
    · split at h
      · exact absurd (Prod.mk.inj h).2 (by simp only [reduceCtorEq, not_false_eq_true])
      · rename_i heq
        rcases Prod.mk.inj h with ⟨rfl, herror⟩
        rw [heq, Except.error.inj herror]
      · exact absurd (Prod.mk.inj h).2 (by simp only [reduceCtorEq, not_false_eq_true])
  · exact absurd (Prod.mk.inj h).2 (by simp only [reduceCtorEq, not_false_eq_true])

theorem spares_makeLast (d : Disk) (p : String) : Spares [] d (makeLast d p).1 := by
  unfold makeLast
  cases hdir : d.makeDirectory p with
  | ok e => exact spares_makeDirectory d e p hdir
  | error f =>
      dsimp only
      split
      · exact Spares.refl d
      · exact Spares.refl d

theorem isDirectory_of_makeLast_error (d e : Disk) (p : String) (f : Fault)
    (h : makeLast d p = (e, .error f)) : e.isDirectory p = false := by
  unfold makeLast at h
  cases hdir : d.makeDirectory p with
  | ok d' =>
      rw [hdir] at h
      exact absurd (Prod.mk.inj h).2 (by simp only [reduceCtorEq, not_false_eq_true])
  | error g =>
      rw [hdir] at h
      cases his : d.isDirectory p with
      | true => simp only [his, if_true, Prod.mk.injEq, reduceCtorEq, and_false] at h
      | false =>
          simp only [his, Bool.false_eq_true, if_false, Prod.mk.injEq] at h
          rw [← h.1, his]

/-- A directory that is there already is not made again, and neither is its parent. -/
theorem makeDirectories_of_isDirectory (d : Disk) (p : String) (h : d.isDirectory p = true) :
    d.makeDirectories p = (d, .ok ()) := by
  rcases (isDirectory_iff d p).mp h with ⟨k, hk, hdir⟩
  have hhead : makeHead p.length d p = (d, .ok false) := by
    unfold makeHead
    refine if_neg fun hcond => ?_
    simp only [Bool.and_eq_true, Bool.not_eq_eq_eq_not, Bool.not_true] at hcond
    have hne : (splitDirectory p).1 ≠ "" := fun hc => by
      rw [hc] at hcond
      exact absurd hcond.1.1 (by decide)
    have hparent := isDirectory_splitDirectory d p h hne
    unfold isDirectory at hparent
    unfold contains at hcond
    rw [beq_iff_eq.mp hparent] at hcond
    exact absurd hcond.2 (by decide)
  have hlast : makeLast d p = (d, .ok ()) := by
    unfold makeLast
    cases hmade : d.makeDirectory p with
    | error f =>
        dsimp only
        rw [if_pos h]
    | ok e =>
        rcases (makeDirectory_eq_ok_iff d e p).mp hmade with ⟨l, hl, hnone, -⟩
        rw [Except.ok.inj (hk.symm.trans hl), hnone] at hdir
        exact absurd hdir (by simp only [reduceCtorEq, not_false_eq_true])
  unfold makeDirectories
  rw [makeDirectoriesFrom_succ, hhead]
  exact hlast

theorem spares_makeDirectoriesFrom (fuel : Nat) :
    ∀ d p, Spares [] d (makeDirectoriesFrom fuel d p).1 := by
  induction fuel with
  | zero => exact fun d p => Spares.refl d
  | succ fuel ih =>
      intro d p
      have hhead : Spares [] d (makeHead fuel d p).1 := by
        rcases makeHead_disk fuel d p with heq | heq
        · rw [heq]
          exact Spares.refl d
        · rw [heq]
          exact ih d _
      rw [makeDirectoriesFrom_succ]
      rcases hmade : makeHead fuel d p with ⟨d', f | made⟩ <;> rw [hmade] at hhead
      · exact hhead
      · cases made with
        | true => exact hhead
        | false => exact hhead.trans [] [] d d' _ (spares_makeLast d' p)

/-- Making directories touches no file, even where it reports a fault. -/
theorem spares_makeDirectories (d : Disk) (p : String) :
    Spares [] d (d.makeDirectories p).1 :=
  spares_makeDirectoriesFrom (p.length + 1) d p

/-- The fault is that of the first directory that cannot be made, and what lies in a
    directory that is not there is not there either. -/
theorem isDirectory_of_makeDirectoriesFrom_error (fuel : Nat) :
    ∀ d p e f, makeDirectoriesFrom fuel d p = (e, .error f) → e.isDirectory p = false := by
  induction fuel with
  | zero =>
      intro d p e f h
      exact absurd (Prod.mk.inj h).2 (by simp only [reduceCtorEq, not_false_eq_true])
  | succ fuel ih =>
      intro d p e f h
      rw [makeDirectoriesFrom_succ] at h
      rcases hmade : makeHead fuel d p with ⟨d', g | made⟩ <;> rw [hmade] at h
      · rcases makeHead_error fuel d d' p g hmade with ⟨hne, hhead⟩
        rcases Prod.mk.inj h with ⟨rfl, -⟩
        have hnot := ih d _ d' g hhead
        exact Bool.eq_false_iff.mpr fun hc =>
          absurd (isDirectory_splitDirectory d' p hc hne) (Bool.eq_false_iff.mp hnot)
      · cases made with
        | true => exact absurd (Prod.mk.inj h).2 (by simp only [reduceCtorEq, not_false_eq_true])
        | false => exact isDirectory_of_makeLast_error d' e p f h

/-- A directory that cannot be made is not there. -/
theorem isDirectory_of_makeDirectories_error (d e : Disk) (p : String) (f : Fault)
    (h : d.makeDirectories p = (e, .error f)) : e.isDirectory p = false :=
  isDirectory_of_makeDirectoriesFrom_error (p.length + 1) d p e f h

theorem exists_eq_splitDirectory_append (p : String) :
    ∃ more, p.toList = (splitDirectory p).1.toList ++ more := by
  rcases Path.exists_eq_split_append p with ⟨more, hmore⟩
  unfold splitDirectory
  split
  · rcases Path.exists_eq_split_append (Path.split p).1 with ⟨more', hmore'⟩
    refine ⟨more' ++ more, ?_⟩
    rw [← List.append_assoc, ← hmore']
    exact hmore
  · exact ⟨more, hmore⟩

/-- What is no name in the path of a parent is none in the whole path. -/
theorem contains_nul_of_makeDirectoriesFrom_error (fuel : Nat) :
    ∀ d p e, makeDirectoriesFrom fuel d p = (e, .error .badName) →
      p.toList.contains '\x00' = true := by
  induction fuel with
  | zero =>
      intro d p e h
      exact absurd (Prod.mk.inj h).2 (by simp only [reduceCtorEq, not_false_eq_true])
  | succ fuel ih =>
      intro d p e h
      rw [makeDirectoriesFrom_succ] at h
      rcases hmade : makeHead fuel d p with ⟨d', g | made⟩ <;> rw [hmade] at h
      · rw [Except.error.inj (Prod.mk.inj h).2] at hmade
        have hhead := ih d _ d' (makeHead_error fuel d d' p .badName hmade).2
        rcases exists_eq_splitDirectory_append p with ⟨more, hmore⟩
        rw [List.contains_iff_mem] at hhead ⊢
        rw [hmore]
        exact List.mem_append_left more hhead
      · cases made with
        | true => exact absurd (Prod.mk.inj h).2 (by simp only [reduceCtorEq, not_false_eq_true])
        | false =>
            simp only [makeLast] at h
            cases hlast : d'.makeDirectory p with
            | ok d'' => simp only [hlast, Prod.mk.injEq, reduceCtorEq, and_false] at h
            | error f =>
                simp only [hlast] at h
                split at h
                · exact absurd (Prod.mk.inj h).2 (by
                    simp only [reduceCtorEq, not_false_eq_true])
                · rw [Except.error.inj (Prod.mk.inj h).2] at hlast
                  exact (makeDirectory_eq_badName_iff d' p).mp hlast

end Disk

end OpcodeForge
