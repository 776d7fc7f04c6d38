import OpcodeForge.Disk.Basic

/-!
# What Operations Spare

An operation on a disk is judged by the files that it leaves alone. `Spares` says this
of two disks and a list of locations: no directory is gone, and away from the locations
the files are the same ones, with the same bytes. New directories do not count, since
nothing is stored in a directory itself.

A path that leads somewhere goes through directories only, so what an operation spares
includes every path that led anywhere before (`Spares.locate`). The converse fails, and
not only for paths to the new directories: a path may go into a directory and come back
out of it, and then it leads somewhere as soon as the directory is there. What is
stored at a path can therefore change without any file being touched.

## Main definitions

* `Disk.stored`: The bytes of the file at a path, if there is one.
* `Disk.Spares`: Away from some locations the files of two disks are the same.

## Theorems

* `stored_eq_some_iff`: Bytes are stored at a path that leads to a file.
* `locate_eq_badName_iff`: What is no name is found in the path and not on the disk.
* `Spares.trans`: What two operations spare, one after the other spares.
* `Spares.locate`: Paths that lead somewhere keep leading there.
* `makeDirectory_eq_ok_iff`, `write_eq_ok_iff`, `remove_eq_ok_iff`, `rename_eq_ok_iff`:
  When an operation succeeds, and what it leaves.
* `spares_makeDirectory`, `spares_put`, `spares_rename`: What the operations spare.
* `get?_of_rename_error`: A file that cannot be renamed is kept from it by a directory.
-/

namespace OpcodeForge.Disk

/-- The bytes of the file at a path, if there is a file. -/
def stored (d : Disk) (p : String) : Option (List UInt8) :=
  (d.read p).toOption

theorem stored_eq_some_iff (d : Disk) (p : String) (bs : List UInt8) :
    d.stored p = some bs ↔ ∃ k, d.locate p = .ok k ∧ d.get? k = some (.file bs) ∧
      namesDirectory p = false := by
  unfold stored read
  cases hl : d.locate p with
  | error f => simp only [bind, Except.bind, Except.toOption, reduceCtorEq, false_and, exists_false]
  | ok k =>
      simp only [bind, Except.bind, Except.ok.injEq, exists_eq_left']
      cases hk : d.get? k with
      | none => simp only [Except.toOption, reduceCtorEq, false_and]
      | some x =>
          cases x with
          | directory => simp only [Except.toOption, reduceCtorEq, Option.some.injEq, false_and]
          | file cs =>
              cases hn : namesDirectory p with
              | true => simp only [if_true, Except.toOption, reduceCtorEq, and_false]
              | false =>
                  simp only [Bool.false_eq_true, if_false, Except.toOption, Option.some.injEq,
                    Entry.file.injEq, and_true]

/-- Away from some locations the files of two disks are the same, and no directory of
    the first is missing in the second. -/
structure Spares (touched : List Location) (d e : Disk) : Prop where
  here : e.here = d.here
  directory : ∀ k, d.get? k = some .directory → e.get? k = some .directory
  file : ∀ k, k ∉ touched → ∀ bs,
    e.get? k = some (.file bs) ↔ d.get? k = some (.file bs)

theorem Spares.refl (d : Disk) : Spares [] d d :=
  ⟨rfl, fun _ h => h, fun _ _ _ => Iff.rfl⟩

theorem Spares.trans (t u : List Location) (d e f : Disk) (h : Spares t d e)
    (h' : Spares u e f) : Spares (t ++ u) d f := by
  refine ⟨h'.here.trans h.here, fun k hk => h'.directory k (h.directory k hk), ?_⟩
  intro k hk bs
  rw [List.mem_append, not_or] at hk
  exact (h'.file k hk.2 bs).trans (h.file k hk.1 bs)

theorem Spares.mono (t u : List Location) (d e : Disk) (h : Spares t d e)
    (hsub : ∀ k ∈ t, k ∈ u) : Spares u d e :=
  ⟨h.here, h.directory, fun k hk bs => h.file k (fun hc => hk (hsub k hc)) bs⟩

/-- The location that one name leads to from a directory. -/
def next (l : Location) (name : String) : Except Fault Location :=
  if name == "." then .ok l
  else if name == ".." then .ok l.dropLast
  else if maxName < name.utf8ByteSize then .error .nameTooLong
  else .ok (l ++ [name])

/-- A name is followed from a directory and from nothing else. -/
theorem walk_cons_eq_ok_iff (d : Disk) (l r : Location) (name : String)
    (rest : List String) : d.walk l (name :: rest) = .ok r ↔
      d.get? l = some .directory ∧ ∃ m, next l name = .ok m ∧ d.walk m rest = .ok r := by
  rw [walk]
  unfold next
  cases hl : d.get? l with
  | none => simp only [reduceCtorEq, false_and]
  | some x =>
      cases x with
      | file bs => simp only [reduceCtorEq, Option.some.injEq, false_and]
      | directory =>
          simp only [true_and]
          split
          · simp only [Except.ok.injEq, exists_eq_left']
          · split
            · simp only [Except.ok.injEq, exists_eq_left']
            · split
              · simp only [reduceCtorEq, false_and, exists_false]
              · simp only [Except.ok.injEq, exists_eq_left']

theorem walk_append_eq_ok_iff (d : Disk) (names more : List String) (r : Location) :
    ∀ l, d.walk l (names ++ more) = .ok r ↔
      ∃ m, d.walk l names = .ok m ∧ d.walk m more = .ok r := by
  induction names with
  | nil =>
      intro l
      simp only [List.nil_append, walk, Except.ok.injEq, exists_eq_left']
  | cons s rest ih =>
      intro l
      rw [List.cons_append, walk_cons_eq_ok_iff]
      constructor
      · rintro ⟨hl, m, hm, hr⟩
        rcases (ih m).mp hr with ⟨n, hn, hr⟩
        exact ⟨n, (walk_cons_eq_ok_iff d l n s rest).mpr ⟨hl, m, hm, hn⟩, hr⟩
      · rintro ⟨n, hn, hr⟩
        rcases (walk_cons_eq_ok_iff d l n s rest).mp hn with ⟨hl, m, hm, hn⟩
        exact ⟨hl, m, hm, (ih m).mpr ⟨n, hn, hr⟩⟩

/-- The location that a path starts from. -/
def origin (d : Disk) (p : String) : Location :=
  if Path.isAbsolute p then [] else d.here

theorem locate_eq_ok_iff (d : Disk) (p : String) (k : Location) :
    d.locate p = .ok k ↔ p.toList.contains '\x00' = false ∧ p.isEmpty = false ∧
      p.utf8ByteSize < maxPath ∧ d.walk (d.origin p) (Path.segments p) = .ok k := by
  unfold locate origin
  cases hnul : p.toList.contains '\x00' with
  | true => simp only [if_true, reduceCtorEq, false_and]
  | false =>
      cases hempty : p.isEmpty with
      | true =>
          simp only [if_true, Bool.false_eq_true, if_false, reduceCtorEq, false_and, and_false]
      | false =>
          simp only [Bool.false_eq_true, if_false, true_and]
          split
          · rename_i hlong
            simp only [reduceCtorEq, Nat.not_lt.mpr hlong, false_and]
          · rename_i hlong
            simp only [Nat.not_le.mp hlong, true_and]

theorem walk_ne_badName (d : Disk) (names : List String) :
    ∀ l, d.walk l names ≠ .error .badName := by
  induction names with
  | nil => simp only [walk, ne_eq, reduceCtorEq, not_false_eq_true, implies_true]
  | cons s rest ih =>
      intro l
      rw [walk]
      split
      · simp only [ne_eq, Except.error.injEq, reduceCtorEq, not_false_eq_true]
      · simp only [ne_eq, Except.error.injEq, reduceCtorEq, not_false_eq_true]
      · split
        · exact ih l
        · split
          · exact ih l.dropLast
          · split
            · simp only [ne_eq, Except.error.injEq, reduceCtorEq, not_false_eq_true]
            · exact ih (l ++ [s])

/-- Only the path itself can have a character that no name can have. -/
theorem locate_eq_badName_iff (d : Disk) (p : String) :
    d.locate p = .error .badName ↔ p.toList.contains '\x00' = true := by
  unfold locate
  cases p.toList.contains '\x00' with
  | true => simp only [if_true]
  | false =>
      simp only [Bool.false_eq_true, if_false, iff_false]
      split
      · simp only [Except.error.injEq, reduceCtorEq, not_false_eq_true]
      · split
        · simp only [Except.error.injEq, reduceCtorEq, not_false_eq_true]
        · exact walk_ne_badName d _ _

/-- What is done at a location that a path leads to has nothing to do with names. -/
theorem bind_locate_eq_badName_iff {α : Type} (d : Disk) (p : String)
    (f : Location → Except Fault α) (hf : ∀ k, f k ≠ .error .badName) :
    (d.locate p >>= f) = .error .badName ↔ p.toList.contains '\x00' = true := by
  rw [← locate_eq_badName_iff d p]
  cases d.locate p with
  | error x => simp only [bind, Except.bind, Except.error.injEq]
  | ok k => simp only [bind, Except.bind, hf k, reduceCtorEq]

theorem read_eq_badName_iff (d : Disk) (p : String) :
    d.read p = .error .badName ↔ p.toList.contains '\x00' = true := by
  refine bind_locate_eq_badName_iff d p _ fun k => ?_
  split
  · simp only [ne_eq, Except.error.injEq, reduceCtorEq, not_false_eq_true]
  · simp only [ne_eq, Except.error.injEq, reduceCtorEq, not_false_eq_true]
  · split <;> simp only [ne_eq, Except.error.injEq, reduceCtorEq, not_false_eq_true]

theorem write_eq_badName_iff (d : Disk) (p : String) (bs : List UInt8) :
    d.write p bs = .error .badName ↔ p.toList.contains '\x00' = true := by
  refine bind_locate_eq_badName_iff d p _ fun k => ?_
  split
  · simp only [ne_eq, Except.error.injEq, reduceCtorEq, not_false_eq_true]
  · split <;> simp only [ne_eq, Except.error.injEq, reduceCtorEq, not_false_eq_true]
  · split <;> simp only [ne_eq, Except.error.injEq, reduceCtorEq, not_false_eq_true]

theorem makeDirectory_eq_badName_iff (d : Disk) (p : String) :
    d.makeDirectory p = .error .badName ↔ p.toList.contains '\x00' = true := by
  refine bind_locate_eq_badName_iff d p _ fun k => ?_
  split <;> simp only [ne_eq, Except.error.injEq, reduceCtorEq, not_false_eq_true]

/-- Names are followed through directories, and these are all still there. -/
theorem Spares.walk (t : List Location) (d e : Disk) (h : Spares t d e)
    (names : List String) :
    ∀ l r, d.walk l names = .ok r → e.walk l names = .ok r := by
  induction names with
  | nil => intro l r hr; exact hr
  | cons s rest ih =>
      intro l r hr
      rcases (walk_cons_eq_ok_iff d l r s rest).mp hr with ⟨hl, m, hm, hr⟩
      exact (walk_cons_eq_ok_iff e l r s rest).mpr ⟨h.directory l hl, m, hm, ih m r hr⟩

theorem Spares.locate (t : List Location) (d e : Disk) (h : Spares t d e) (p : String)
    (k : Location) (hk : d.locate p = .ok k) : e.locate p = .ok k := by
  rw [locate_eq_ok_iff] at hk ⊢
  refine ⟨hk.1, hk.2.1, hk.2.2.1, ?_⟩
  have horigin : e.origin p = d.origin p := by
    unfold origin
    rw [h.here]
  rw [horigin]
  exact h.walk t d e _ _ _ hk.2.2.2

/-- Disks that differ at some locations only, and have no directories there, spare the
    rest of each other. -/
theorem spares_of_get? (t : List Location) (d e : Disk) (hhere : e.here = d.here)
    (hsame : ∀ k, k ∉ t → e.get? k = d.get? k)
    (hdir : ∀ k ∈ t, d.get? k ≠ some .directory) : Spares t d e := by
  refine ⟨hhere, fun k hk => ?_, fun k hk bs => ?_⟩
  · rw [hsame k fun hmem => hdir k hmem hk]
    exact hk
  · rw [hsame k hk]

theorem ne_nil_of_get?_ne_directory (d : Disk) (k : Location)
    (hk : d.get? k ≠ some .directory) : k ≠ [] :=
  fun hc => hk (by rw [hc]; rfl)

theorem ne_directory_of_file (d : Disk) (k : Location) (bs : List UInt8)
    (h : d.get? k = some (.file bs)) : d.get? k ≠ some .directory := by
  rw [h]
  simp only [ne_eq, Option.some.injEq, reduceCtorEq, not_false_eq_true]

theorem ne_directory_of_none (d : Disk) (k : Location) (h : d.get? k = none) :
    d.get? k ≠ some .directory := by
  rw [h]
  simp only [ne_eq, reduceCtorEq, not_false_eq_true]

theorem spares_put (d : Disk) (k : Location) (bs : List UInt8)
    (hk : d.get? k ≠ some .directory) : Spares [k] d (d.put k (.file bs)) := by
  refine spares_of_get? [k] d _ rfl (fun l hl => ?_) (fun l hl => ?_)
  · rw [get?_put d k l _ (ne_nil_of_get?_ne_directory d k hk),
      if_neg fun hc => hl (List.mem_singleton.mpr hc)]
  · rw [List.mem_singleton.mp hl]
    exact hk

theorem makeDirectory_eq_ok_iff (d e : Disk) (p : String) :
    d.makeDirectory p = .ok e ↔
      ∃ k, d.locate p = .ok k ∧ d.get? k = none ∧ e = d.put k .directory := by
  unfold makeDirectory
  cases hl : d.locate p with
  | error f => simp only [bind, Except.bind, reduceCtorEq, false_and, exists_false]
  | ok k =>
      simp only [bind, Except.bind, Except.ok.injEq, exists_eq_left']
      cases hk : d.get? k with
      | some x => simp only [reduceCtorEq, false_and]
      | none => simp only [Except.ok.injEq, true_and, eq_comm]

/-- A new directory touches no file. -/
theorem spares_makeDirectory (d e : Disk) (p : String) (h : d.makeDirectory p = .ok e) :
    Spares [] d e := by
  rcases (makeDirectory_eq_ok_iff d e p).mp h with ⟨k, _, hk, he⟩
  have hroot : k ≠ [] := fun hc => by
    rw [hc] at hk
    exact absurd hk (by simp only [get?, if_true, reduceCtorEq, not_false_eq_true])
  rw [he]
  refine ⟨rfl, fun l hl => ?_, fun l _ cs => ?_⟩
  · rw [get?_put d k l _ hroot]
    split
    · rfl
    · exact hl
  · rw [get?_put d k l _ hroot]
    split
    · rename_i hlk
      rw [hlk, hk]
      simp only [Option.some.injEq, reduceCtorEq]
    · exact Iff.rfl

theorem write_eq_ok_iff (d e : Disk) (p : String) (bs : List UInt8) :
    d.write p bs = .ok e ↔ ∃ k, d.locate p = .ok k ∧ d.get? k ≠ some .directory ∧
      namesDirectory p = false ∧ e = d.put k (.file bs) := by
  unfold write
  cases hl : d.locate p with
  | error f => simp only [bind, Except.bind, reduceCtorEq, false_and, exists_false]
  | ok k =>
      simp only [bind, Except.bind, Except.ok.injEq, exists_eq_left']
      cases hk : d.get? k with
      | none =>
          cases namesDirectory p with
          | true => simp
          | false => simp [eq_comm]
      | some x =>
          cases x with
          | directory => simp
          | file cs =>
              cases namesDirectory p with
              | true => simp
              | false => simp [eq_comm]

theorem remove_eq_ok_iff (d e : Disk) (p : String) :
    d.remove p = .ok e ↔ ∃ k bs, d.locate p = .ok k ∧ d.get? k = some (.file bs) ∧
      namesDirectory p = false ∧ e = d.erase k := by
  unfold remove
  cases hl : d.locate p with
  | error f => simp only [bind, Except.bind, reduceCtorEq, false_and, exists_false]
  | ok k =>
      simp only [bind, Except.bind, Except.ok.injEq]
      cases hk : d.get? k with
      | none => simp [hk]
      | some x =>
          cases x with
          | directory => simp [hk]
          | file cs =>
              cases namesDirectory p with
              | true => simp
              | false => simp [hk, eq_comm]

theorem rename_eq_ok_iff (d e : Disk) (p q : String) : d.rename p q = .ok e ↔
    ∃ a b bs, d.locate p = .ok a ∧ d.locate q = .ok b ∧ d.get? a = some (.file bs) ∧
      namesDirectory p = false ∧ namesDirectory q = false ∧ d.get? b ≠ some .directory ∧
      e = (d.erase a).put b (.file bs) := by
  -- Names for a directory itself are refused first, but they are refused again anyway.
  have hdots : ∀ r, namesDirectory r = false → endsInDots r = false :=
    fun r hr => (Bool.or_eq_false_iff.mp hr).2
  unfold rename
  cases hp : d.locate p with
  | error f => simp only [bind, Except.bind, reduceCtorEq, false_and, exists_false]
  | ok a =>
      cases hq : d.locate q with
      | error f => simp only [bind, Except.bind, reduceCtorEq, false_and, and_false, exists_false]
      | ok b =>
          simp only [bind, Except.bind, Except.ok.injEq]
          constructor
          · intro h
            split at h
            · exact absurd h (by simp only [reduceCtorEq, not_false_eq_true])
            · split at h
              · exact absurd h (by simp only [reduceCtorEq, not_false_eq_true])
              · exact absurd h (by simp only [reduceCtorEq, not_false_eq_true])
              · rename_i bs ha
                split at h
                · exact absurd h (by simp only [reduceCtorEq, not_false_eq_true])
                · rename_i hnames
                  split at h
                  · exact absurd h (by simp only [reduceCtorEq, not_false_eq_true])
                  · rename_i hb
                    rw [Bool.not_eq_true, Bool.or_eq_false_iff] at hnames
                    exact ⟨a, b, bs, rfl, rfl, ha, hnames.1, hnames.2,
                      fun hc => hb (beq_iff_eq.mpr hc), (Except.ok.inj h).symm⟩
          · rintro ⟨a', b', bs, rfl, rfl, ha, hp', hq', hb, rfl⟩
            rw [if_neg (by simp only [hdots p hp', hdots q hq', Bool.or_self, Bool.false_eq_true,
              not_false_eq_true]), ha]
            simp only [hp', hq', Bool.or_self, Bool.false_eq_true, if_false, beq_iff_eq, if_neg hb]

/-- A file that is renamed is at its new place and not at the old one. -/
theorem spares_rename (d e : Disk) (p q : String) (a : Location) (bs : List UInt8)
    (h : d.rename p q = .ok e) (ha : d.locate p = .ok a) (hget : d.get? a = some (.file bs)) :
    ∃ b, d.locate q = .ok b ∧ namesDirectory q = false ∧ Spares [a, b] d e ∧
      ∀ n, e.get? n = if n = b then some (.file bs) else if n = a then none else d.get? n := by
  rcases (rename_eq_ok_iff d e p q).mp h with ⟨a', b, cs, ha', hb, hget', -, hq, hdir, rfl⟩
  have haa : a' = a := Except.ok.inj (ha'.symm.trans ha)
  have hbs : cs = bs := by
    rw [haa, hget, Option.some.injEq, Entry.file.injEq] at hget'
    exact hget'.symm
  have hadir := ne_directory_of_file d a bs hget
  subst haa hbs
  have hafter : ∀ n, ((d.erase a').put b (.file cs)).get? n
      = if n = b then some (.file cs) else if n = a' then none else d.get? n := by
    intro n
    rw [get?_put _ b n _ (ne_nil_of_get?_ne_directory d b hdir),
      get?_erase d a' n (ne_nil_of_get?_ne_directory d a' hadir)]
  refine ⟨b, hb, hq, spares_of_get? [a', b] d _ rfl (fun n hn => ?_) (fun n hn => ?_), hafter⟩
  · rw [List.mem_cons, List.mem_singleton, not_or] at hn
    rw [hafter n, if_neg hn.2, if_neg hn.1]
  · rcases List.mem_cons.mp hn with rfl | hn
    · exact hadir
    · rw [List.mem_singleton.mp hn]
      exact hdir

/-- A file cannot be renamed to a path only if the path leads nowhere or to a
    directory. -/
theorem get?_of_rename_error (d : Disk) (p q : String) (a b : Location) (bs : List UInt8)
    (f : Fault) (h : d.rename p q = .error f) (ha : d.locate p = .ok a)
    (hget : d.get? a = some (.file bs)) (hp : namesDirectory p = false)
    (hb : d.locate q = .ok b) (hq : namesDirectory q = false) : d.get? b = some .directory := by
  by_cases hdir : d.get? b = some .directory
  · exact hdir
  · have hok := (rename_eq_ok_iff d _ p q).mpr ⟨a, b, bs, ha, hb, hget, hp, hq, hdir, rfl⟩
    exact absurd (h.symm.trans hok) (by simp only [reduceCtorEq, not_false_eq_true])

end OpcodeForge.Disk
