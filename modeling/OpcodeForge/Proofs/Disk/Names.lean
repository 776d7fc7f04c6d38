import OpcodeForge.Proofs.Disk.Directories

/-!
# Names in a Directory

What is in a directory can be asked for in two ways. Listing it gives the names of its entries,
and a path that is put together from the path of the directory and a name leads to one of them.
Both come down to the location: a name is listed if there is an entry there, and the path leads
there if it does not get too long on the way (`Path.Fits`), which is a matter of its text alone.

The two agree only as far as the names on the disk are names. One with a slash in it would be
listed, but as part of a path it would be cut in two (`Disk.Proper`).

## Main definitions

* `Path.IsName`: The name of an entry: not empty, no slash, and not for a directory itself.
* `Path.Fits`: A path of a directory and a name that can be followed.
* `Disk.Proper`: A disk on which no name has a slash.

## Theorems

* `Disk.mem_namesAt_iff`: A name is listed exactly if there is an entry.
* `Path.segments_join`: The names of a path that was put together.
* `Disk.locate_join_iff`: A path of a directory and a name leads into the directory.
* `Disk.stored_join_iff`: What is stored there.
* `Disk.isFile_iff`: A path leads to a file exactly if something is stored.
* `Disk.proper_of_entries`: Whether a disk is proper is seen from its entries.
-/

namespace OpcodeForge

namespace Path

/-- The name of an entry. -/
structure IsName (name : String) : Prop where
  ne_empty : name ≠ ""
  no_slash : '/' ∉ name.toList
  ne_dot : name ≠ "."
  ne_dots : name ≠ ".."

/-- The path of a directory and a name can be followed, as far as limits go. -/
structure Fits (dir name : String) : Prop where
  no_nul : (join dir name).toList.contains '\x00' = false
  path : (join dir name).utf8ByteSize < Disk.maxPath
  last : name.utf8ByteSize ≤ Disk.maxName

section

variable (dir name : String) (hname : IsName name)

include hname

theorem IsName.toList_ne_nil : name.toList ≠ [] :=
  fun hc => hname.ne_empty (String.toList_eq_nil_iff.mp hc)

theorem isAbsolute_of_isName : isAbsolute name = false := by
  unfold isAbsolute
  rw [beq_eq_false_iff_ne]
  exact fun hc => hname.no_slash (List.mem_of_head? hc)

/-- Nothing is put before a name on its own, and otherwise one slash is before it. -/
theorem join_cases : (dir = "" ∧ join dir name = name) ∨
    ∃ before, (join dir name).toList = before ++ '/' :: name.toList ∧
      (dir.toList = before ∨ dir.toList = before ++ ['/']) := by
  have habs : ¬isAbsolute name = true := by
    rw [isAbsolute_of_isName name hname]
    exact Bool.false_ne_true
  unfold join
  rw [if_neg habs]
  split
  · rename_i hcond
    rw [Bool.or_eq_true, String.isEmpty_iff, beq_iff_eq, List.getLast?_eq_some_iff] at hcond
    rcases hcond with rfl | ⟨before, hdir⟩
    · exact Or.inl ⟨rfl, String.empty_append⟩
    · refine Or.inr ⟨before, ?_, Or.inr hdir⟩
      rw [String.toList_append, hdir, List.append_assoc, List.singleton_append]
  · refine Or.inr ⟨dir.toList, ?_, Or.inl rfl⟩
    rw [String.toList_append, String.toList_append, List.append_assoc]
    rfl

/-- A path that was put together starts with the directory and ends in the name. -/
theorem exists_eq_join : (∃ more, (join dir name).toList = dir.toList ++ more) ∧
    ∃ before, (join dir name).toList = before ++ name.toList := by
  rcases join_cases dir name hname with ⟨rfl, hjoin⟩ | ⟨before, hjoin, hdir | hdir⟩
  · exact ⟨⟨_, rfl⟩, [], by rw [hjoin, List.nil_append]⟩
  · exact ⟨⟨_, by rw [hjoin, hdir]⟩, before ++ ['/'], by
      rw [hjoin, List.append_assoc, List.singleton_append]⟩
  · exact ⟨⟨name.toList, by rw [hjoin, hdir, List.append_assoc, List.singleton_append]⟩,
      before ++ ['/'], by rw [hjoin, List.append_assoc, List.singleton_append]⟩

theorem join_ne_empty : join dir name ≠ "" := by
  rcases (exists_eq_join dir name hname).2 with ⟨before, hjoin⟩
  intro hc
  rw [hc] at hjoin
  exact hname.toList_ne_nil name (List.append_eq_nil_iff.mp hjoin.symm).2

/-- The names of a path that was put together are those of the directory and the last one. -/
theorem segments_join : segments (join dir name) = segments dir ++ [name] := by
  have hsingle : segments name = [name] := by
    unfold segments
    rw [Text.pieces_of_not_mem '/' _ hname.no_slash,
      List.filter_cons_of_pos (by simpa using hname.toList_ne_nil name), List.filter_nil, List.map_cons, List.map_nil,
      String.ofList_toList]
  rcases join_cases dir name hname with ⟨rfl, hjoin⟩ | ⟨before, hjoin, hdir⟩
  · rw [hjoin, hsingle]
    rfl
  · have hbefore : segments dir = (namesOf before).map String.ofList := by
      rcases hdir with hdir | hdir
      · rw [segments_eq, hdir]
      · rw [segments_eq, hdir, namesOf_append_slash]
        exact congrArg _ (List.append_nil _)
    rw [segments_eq, hjoin, namesOf_append_slash, List.map_append, hbefore, ← segments_eq, hsingle]

end

end Path

namespace Disk

open OpcodeForge.Path (IsName Fits)

/-- No name on the disk has a slash. -/
structure Proper (d : Disk) : Prop where
  here : ∀ name ∈ d.here, '/' ∉ name.toList
  entry : ∀ k, (d.get? k).isSome = true → ∀ name ∈ k, '/' ∉ name.toList

theorem lookupEntry_isSome_iff (l : Location) (es : List (Location × Entry)) :
    (lookupEntry l es).isSome = true ↔ ∃ x ∈ es, x.1 = l := by
  induction es with
  | nil => simp only [lookupEntry, Option.isSome_none, Bool.false_eq_true, List.not_mem_nil,
      false_and, exists_false]
  | cons x rest ih =>
      rcases x with ⟨k, e⟩
      rw [lookupEntry]
      by_cases hk : k = l
      · simp only [hk, if_true, Option.isSome_some, List.mem_cons, exists_eq_or_imp, true_or]
      · simp only [hk, if_false, ih, List.mem_cons, exists_eq_or_imp, false_or]

/-- Whether a disk is proper is seen from its entries. -/
theorem proper_of_entries (d : Disk) (hhere : ∀ name ∈ d.here, '/' ∉ name.toList)
    (hentries : ∀ x ∈ d.entries, ∀ name ∈ x.1, '/' ∉ name.toList) : d.Proper := by
  refine ⟨hhere, fun k hk => ?_⟩
  unfold get? at hk
  split at hk
  · rename_i hroot
    rw [hroot]
    exact fun name hname => absurd hname List.not_mem_nil
  · rcases (lookupEntry_isSome_iff k d.entries).mp hk with ⟨x, hx, rfl⟩
    exact hentries x hx

/-- A name is listed exactly if there is an entry. -/
theorem mem_namesAt_iff (d : Disk) (l : Location) (name : String) :
    name ∈ d.namesAt l ↔ (d.get? (l ++ [name])).isSome = true := by
  have hchild : ∀ k, childName? l k = some name ↔ k = l ++ [name] := by
    intro k
    unfold childName?
    split
    · rename_i hdrop
      rw [List.getLast?_eq_some_iff]
      constructor
      · rintro ⟨init, rfl⟩
        rw [← eq_of_beq hdrop, List.dropLast_concat]
      · intro hk
        exact ⟨l, hk⟩
    · rename_i hdrop
      refine ⟨fun hc => absurd hc (by simp only [reduceCtorEq, not_false_eq_true]), ?_⟩
      rintro rfl
      exact absurd (by rw [List.dropLast_concat, beq_self_eq_true]) hdrop
  have hroot : l ++ [name] ≠ [] := List.append_ne_nil_of_right_ne_nil _ (List.cons_ne_nil _ _)
  unfold namesAt get?
  rw [List.mem_eraseDups, List.mem_filterMap, if_neg hroot, lookupEntry_isSome_iff]
  simp only [hchild]

/-- A path leads to a file exactly if something is stored. -/
theorem isFile_iff (d : Disk) (p : String) :
    d.isFile p = true ↔ ∃ bs, d.stored p = some bs := by
  simp only [stored_eq_some_iff]
  unfold isFile find?
  cases hl : d.locate p with
  | error f => simp only [Bool.false_eq_true, reduceCtorEq, false_and, exists_false]
  | ok k =>
      simp only [Except.ok.injEq, exists_eq_left']
      cases hk : d.get? k with
      | none => simp only [Bool.false_eq_true, reduceCtorEq, false_and, exists_false]
      | some x =>
          cases x with
          | directory =>
              simp only [Bool.false_eq_true, Option.some.injEq, reduceCtorEq, false_and,
                exists_false]
          | file bs =>
              cases namesDirectory p with
              | true =>
                  simp only [if_true, Bool.false_eq_true, Bool.true_eq_false, and_false,
                    exists_false]
              | false =>
                  simp only [Bool.false_eq_true, if_false, Option.some.injEq, Entry.file.injEq,
                    and_true, exists_eq']

theorem stored_eq_some_iff_read (d : Disk) (p : String) (bs : List UInt8) :
    d.stored p = some bs ↔ d.read p = .ok bs := by
  unfold stored
  cases d.read p with
  | error f => simp only [Except.toOption, reduceCtorEq]
  | ok bs' => simp only [Except.toOption, Option.some.injEq, Except.ok.injEq]

section

variable (d : Disk) (dir name : String) (l : Location) (hl : d.locate dir = .ok l)
  (hdir : d.get? l = some .directory) (hname : IsName name)

include hl hdir hname

/-- A path of a directory and a name leads into the directory. -/
theorem locate_join_iff (k : Location) :
    d.locate (Path.join dir name) = .ok k ↔ Fits dir name ∧ k = l ++ [name] := by
  rcases (locate_eq_ok_iff d dir l).mp hl with ⟨-, hempty, -, hwalk⟩
  have hne : dir.toList ≠ [] := fun hc =>
    Bool.eq_false_iff.mp hempty (String.isEmpty_iff.mpr (String.toList_eq_nil_iff.mp hc))
  -- The name is at the end, so the path starts from where the directory does.
  have horigin : d.origin (Path.join dir name) = d.origin dir := by
    rcases (Path.exists_eq_join dir name hname).1 with ⟨more, hjoin⟩
    unfold origin Path.isAbsolute
    rw [hjoin, List.head?_append, List.head?_eq_some_head hne]
    rfl
  have hlast : ∀ k, d.walk l [name] = .ok k ↔ name.utf8ByteSize ≤ maxName ∧ k = l ++ [name] := by
    intro k
    rw [walk_cons_eq_ok_iff]
    unfold next
    rw [if_neg (by simpa only [beq_iff_eq] using hname.ne_dot),
      if_neg (by simpa only [beq_iff_eq] using hname.ne_dots)]
    split
    · rename_i hlong
      simp only [reduceCtorEq, false_and, exists_false, and_false, Nat.not_le.mpr hlong]
    · rename_i hlong
      simp only [hdir, Except.ok.injEq, exists_eq_left', walk, Nat.le_of_not_lt hlong, true_and]
      exact eq_comm
  have hjoin : (Path.join dir name).isEmpty = false :=
    Bool.eq_false_iff.mpr fun hc => Path.join_ne_empty dir name hname (String.isEmpty_iff.mp hc)
  rw [locate_eq_ok_iff, horigin, Path.segments_join dir name hname, walk_append_eq_ok_iff]
  simp only [hwalk, Except.ok.injEq, exists_eq_left', hlast, hjoin, true_and]
  constructor
  · rintro ⟨hnul, hsize, hlen, hk⟩
    exact ⟨⟨hnul, hsize, hlen⟩, hk⟩
  · rintro ⟨hfits, hk⟩
    exact ⟨hfits.no_nul, hfits.path, hfits.last, hk⟩

omit hl hdir in
theorem namesDirectory_join : namesDirectory (Path.join dir name) = false := by
  unfold namesDirectory endsInDots
  rw [Path.segments_join dir name hname, List.getLast?_concat, Bool.or_eq_false_iff]
  refine ⟨?_, ?_⟩
  · have hne := hname.toList_ne_nil name
    rcases (Path.exists_eq_join dir name hname).2 with ⟨before, hjoin⟩
    rw [hjoin, List.getLast?_append, List.getLast?_eq_some_getLast hne, Option.some_or,
      beq_eq_false_iff_ne]
    exact fun hc => hname.no_slash (Option.some.inj hc ▸ List.getLast_mem hne)
  · simp only [Bool.or_eq_false_iff, beq_eq_false_iff_ne]
    exact ⟨hname.ne_dot, hname.ne_dots⟩

/-- What is stored at a path of a directory and a name. -/
theorem stored_join_iff (bs : List UInt8) :
    d.stored (Path.join dir name) = some bs ↔
      Fits dir name ∧ d.get? (l ++ [name]) = some (.file bs) := by
  simp only [stored_eq_some_iff, locate_join_iff d dir name l hl hdir hname,
    namesDirectory_join dir name hname, and_true]
  constructor
  · rintro ⟨k, ⟨hfits, rfl⟩, hget⟩
    exact ⟨hfits, hget⟩
  · rintro ⟨hfits, hget⟩
    exact ⟨_, ⟨hfits, rfl⟩, hget⟩

end

end Disk

end OpcodeForge
