import Mathlib.Data.List.Pairwise
import OpcodeForge.Proofs.Specification.Listing

/-!
# The Order of a Listing

Documents are listed in the order of their file names, and an identifier is what is before the
suffix of a name. Two names mostly compare as their identifiers do, since the suffix is the same.
They need not if one identifier begins the other: then the end of the longer one is compared with
the suffix. A name with a dash at its end, say, comes before the name without it.

So the identifiers of a listing are in their own order exactly if no end of this kind comes before
the suffix (`KeepsOrder`). An end and the suffix together come before the suffix alone exactly if
the end does. That is not so for every suffix, but this one has its least character in front.

## Main definitions

* `KeepsOrder`: No identifier is another one with an end that comes before the suffix.

## Theorems

* `append_right_lt_iff`: Texts of which none begins the other compare as before with an end.
* `append_suffix_lt_iff`: An end in front of the suffix compares with it as the end alone.
* `name_lt_iff`, `longer_name_lt_iff`: How the names of two documents compare.
* `ascending_iff`: When identifiers are in the order of their names and in their own one.
* `Library.identifiers_listed`: What is listed, in which order, and where it lies.
-/

namespace OpcodeForge

open OpcodeForge.Path (Fits)

/-- A path that is put together is at least as long as its parts. -/
theorem Path.le_utf8ByteSize_join (base p : String) (h : isAbsolute p = false) :
    base.utf8ByteSize + p.utf8ByteSize ≤ (join base p).utf8ByteSize := by
  unfold join
  rw [if_neg (Bool.eq_false_iff.mp h)]
  split
  · rw [String.utf8ByteSize_append]
  · rw [String.utf8ByteSize_append, String.utf8ByteSize_append]
    omega

namespace Text

/-- What stands before two texts does not count. -/
theorem append_left_lt_iff (cs as bs : List Char) : cs ++ as < cs ++ bs ↔ as < bs := by
  induction cs with
  | nil => exact Iff.rfl
  | cons c rest ih =>
      rw [List.cons_append, List.cons_append, List.cons_lt_cons_iff, ih]
      simp only [Char.lt_irrefl, true_and, false_or]

/-- Texts of which none begins the other are told apart before they end, so that what stands behind
    both does not count either. -/
theorem append_right_lt_iff (cs as : List Char) :
    ∀ bs, ¬as <+: bs → ¬bs <+: as → (as ++ cs < bs ++ cs ↔ as < bs) := by
  induction as with
  | nil => exact fun bs h _ => absurd List.nil_prefix h
  | cons a as ih =>
      intro bs h h'
      cases bs with
      | nil => exact absurd List.nil_prefix h'
      | cons b bs =>
          rw [List.cons_append, List.cons_append, List.cons_lt_cons_iff, List.cons_lt_cons_iff]
          rw [List.cons_prefix_cons] at h h'
          refine or_congr_right (and_congr_right fun hab => ?_)
          exact ih bs (fun hp => h ⟨hab, hp⟩) fun hp => h' ⟨hab.symm, hp⟩

end Text

namespace Specification

/-- An end in front of the suffix comes before the suffix alone exactly if the end does. Where the
    end is as long as the suffix or longer, what stands behind it does not count. A shorter one is
    told by its characters, or else is itself the start of the suffix. -/
theorem append_suffix_lt_iff (more : List Char) (h : more ≠ []) :
    more ++ documentSuffix.toList < documentSuffix.toList ↔ more < documentSuffix.toList := by
  have hsuffix : documentSuffix.toList = ['.', 'm', 'd'] := by decide
  have hbehind : ['.', 'm', 'd'] < ['m', 'd'] ∧ ['.', 'm', 'd'] < ['d'] := by decide
  rw [hsuffix]
  rcases more with _ | ⟨a, _ | ⟨b, _ | ⟨c, rest⟩⟩⟩
  · exact absurd rfl h
  · simp only [List.cons_append, List.nil_append, List.cons_lt_cons_iff (a := a), hbehind.1,
      List.nil_lt_cons]
  · simp only [List.cons_append, List.nil_append, List.cons_lt_cons_iff (a := a),
      List.cons_lt_cons_iff (a := b), hbehind.2, List.nil_lt_cons]
  · simp only [List.cons_append, List.cons_lt_cons_iff, List.not_lt_nil]

/-- Identifiers of which none begins the other compare as their names do. -/
theorem name_lt_iff (a b : String) (h : ¬a.toList <+: b.toList) (h' : ¬b.toList <+: a.toList) :
    a ++ documentSuffix < b ++ documentSuffix ↔ a < b := by
  rw [String.lt_iff, String.lt_iff, String.toList_append, String.toList_append]
  exact Text.append_right_lt_iff _ _ _ h h'

/-- The name of a longer identifier comes first if its end comes before the suffix. -/
theorem longer_name_lt_iff (identifier more : String) (h : more ≠ "") :
    identifier ++ more ++ documentSuffix < identifier ++ documentSuffix ↔
      more < documentSuffix := by
  have hne : more.toList ≠ [] := fun hnil => h (String.toList_eq_nil_iff.mp hnil)
  rw [String.lt_iff, String.lt_iff, String.toList_append, String.toList_append,
    String.toList_append, List.append_assoc, Text.append_left_lt_iff]
  exact append_suffix_lt_iff more.toList hne

/-- A longer identifier comes after the one that begins it. -/
theorem lt_longer (identifier more : String) (h : more ≠ "") :
    identifier < identifier ++ more := by
  have hne : more.toList ≠ [] := fun hnil => h (String.toList_eq_nil_iff.mp hnil)
  rcases List.exists_cons_of_ne_nil hne with ⟨c, rest, hmore⟩
  have hlt := (Text.append_left_lt_iff identifier.toList [] (c :: rest)).mpr (List.nil_lt_cons c rest)
  rw [List.append_nil] at hlt
  rw [String.lt_iff, String.toList_append, hmore]
  exact hlt

/-- No identifier is another one with an end that comes before the suffix. -/
def KeepsOrder (ids : List String) : Prop :=
  ∀ identifier ∈ ids, ∀ more, more ≠ "" → identifier ++ more ∈ ids → documentSuffix ≤ more

/-- Identifiers that are in the order of their names are in their own order exactly if no end
    comes before the suffix. -/
theorem ascending_iff (ids : List String)
    (h : (ids.map (· ++ documentSuffix)).Pairwise (· < ·)) :
    ids.Pairwise (· < ·) ↔ KeepsOrder ids := by
  rw [List.pairwise_map] at h
  constructor
  · intro hascend identifier hid more hmore hlonger
    -- Both orders hold for any two identifiers, whichever of them is listed first.
    have : Std.Symm fun a b : String => (a < b → a ++ documentSuffix < b ++ documentSuffix) ∧
        (b < a → b ++ documentSuffix < a ++ documentSuffix) := ⟨fun _ _ hab => hab.symm⟩
    have hboth := (hascend.and h).imp (S := fun a b : String =>
      (a < b → a ++ documentSuffix < b ++ documentSuffix) ∧
        (b < a → b ++ documentSuffix < a ++ documentSuffix))
      fun hab => ⟨fun _ => hab.2, fun hba => absurd hba (String.lt_asymm hab.1)⟩
    have hlt := lt_longer identifier more hmore
    have hne : identifier ≠ identifier ++ more := by
      intro heq
      rw [← heq] at hlt
      exact String.lt_irrefl _ hlt
    have hname := (hboth.forall hid hlonger hne).1 hlt
    rw [← String.not_lt, ← longer_name_lt_iff identifier more hmore]
    exact String.lt_asymm hname
  · intro hkeeps
    refine h.imp_of_mem fun {a b} ha hb hname => ?_
    by_cases hab : a.toList <+: b.toList
    · rcases hab with ⟨more, hmore⟩
      have hb' : a ++ String.ofList more = b := by
        rw [← String.toList_inj, String.toList_append, String.toList_ofList, hmore]
      rw [← hb'] at hname ⊢
      refine lt_longer a _ fun hempty => ?_
      rw [hempty, String.append_empty] at hname
      exact String.lt_irrefl _ hname
    · by_cases hba : b.toList <+: a.toList
      · -- The longer one cannot have come first.
        rcases hba with ⟨more, hmore⟩
        have ha' : b ++ String.ofList more = a := by
          rw [← String.toList_inj, String.toList_append, String.toList_ofList, hmore]
        have hfull : String.ofList more ≠ "" := by
          intro hempty
          rw [← ha', hempty, String.append_empty] at hname
          exact String.lt_irrefl _ hname
        rw [← ha'] at ha hname
        exact absurd ((longer_name_lt_iff b _ hfull).mp hname)
          (String.not_lt.mpr (hkeeps b hb _ hfull ha))
      · exact (name_lt_iff a b hab hba).mp hname

namespace Library

theorem map_identifiers (lib : Library) (d : Disk) :
    ((lib.fileNames d).filterMap identifierOf?).map (· ++ documentSuffix) = lib.fileNames d := by
  have hname : ∀ name ∈ lib.fileNames d,
      (identifierOf? name).map (· ++ documentSuffix) = some name := by
    intro name hmem
    rcases (lib.mem_fileNames_iff d name).mp hmem with ⟨_, _, _, hdocument⟩
    rcases Option.isSome_iff_exists.mp (Bool.and_eq_true_iff.mp hdocument).1 with ⟨id, hid⟩
    rw [hid, Option.map_some, (identifierOf?_eq_some_iff name id).mp hid]
  rw [List.map_filterMap, List.filterMap_congr hname, List.filterMap_some]

/-- The names of a listing are strictly ascending, since a directory has each name once. -/
theorem ascending_fileNames (lib : Library) (d : Disk) : (lib.fileNames d).Pairwise (· < ·) := by
  refine ((lib.pairwise_fileNames d).and (lib.nodup_fileNames d)).imp fun {a b} hab => ?_
  by_contra hlt
  exact hab.2 (String.le_antisymm (of_decide_eq_true hab.1) (String.not_lt.mp hlt))

/-- What is listed are the files of the directory with the suffix, as far as their paths can be
    followed, each of them once. The listing is in the order of the file names, which is the order
    of the identifiers exactly if no end comes before the suffix. The path of a document leads to
    the file that it was listed for. -/
theorem identifiers_listed (lib : Library) (d : Disk) (l : Location) (hd : d.Proper)
    (hl : d.locate lib.directory = .ok l) (hdir : d.get? l = some .directory) :
    ∃ ids, lib.identifiers d = .ok ids ∧ ids.Nodup ∧
      (∀ identifier, identifier ∈ ids ↔ Fits lib.directory (identifier ++ documentSuffix) ∧
        ∃ bs, d.get? (l ++ [identifier ++ documentSuffix]) = some (.file bs)) ∧
      (ids.map (· ++ documentSuffix)).Pairwise (· < ·) ∧
      (ids.Pairwise (· < ·) ↔ KeepsOrder ids) ∧
      ∀ identifier ∈ ids,
        d.locate (lib.path identifier) = .ok (l ++ [identifier ++ documentSuffix]) := by
  have hfound : d.isDirectory lib.directory = true := (d.isDirectory_iff _).mpr ⟨l, hl, hdir⟩
  have hids := (lib.identifiers_eq_ok_iff d _).mpr ⟨hfound, rfl⟩
  have hascend := lib.ascending_fileNames d
  rw [← lib.map_identifiers d] at hascend
  have hmem : ∀ identifier, identifier ∈ (lib.fileNames d).filterMap identifierOf? ↔
      Fits lib.directory (identifier ++ documentSuffix) ∧
        ∃ bs, d.get? (l ++ [identifier ++ documentSuffix]) = some (.file bs) := by
    intro identifier
    have hname := lib.mem_fileNames_iff_get? d l hl hdir hd (identifier ++ documentSuffix)
    simp only [List.mem_filterMap, identifierOf?_eq_some_iff, exists_eq_right]
    rw [hname]
    constructor
    · rintro ⟨other, hother, hfile⟩
      exact hother ▸ hfile
    · exact fun hfile => ⟨identifier, rfl, hfile⟩
  refine ⟨_, hids, lib.nodup_identifiers d _ hids, hmem, hascend, ascending_iff _ hascend, ?_⟩
  intro identifier hlisted
  rcases (hmem identifier).mp hlisted with ⟨hfits, bs, hfile⟩
  exact (d.locate_join_iff _ _ l hl hdir (isName_of_get? d hd l identifier bs hfile) _).mpr
    ⟨hfits, rfl⟩

/-- A directory with a document whose identifier is that of another one and a dash. -/
def dashDisk : Disk :=
  ⟨["w"], [(["w"], .directory), (["w", "docs"], .directory),
    (["w", "docs", "LDA-.md"], .file []), (["w", "docs", "drafts.md"], .directory),
    (["w", "docs", "LDA.md"], .file []), (["w", "docs", "README"], .file [])]⟩

/-- The directory by a path that can just be followed. -/
def slashedDocs : String :=
  "docs" ++ String.ofList (List.replicate 4090 '/')

theorem utf8ByteSize_slashedDocs : slashedDocs.utf8ByteSize = 4094 := by
  have hslashes : ∀ n, (String.ofList (List.replicate n '/')).utf8ByteSize = n := by
    intro n
    induction n with
    | zero => rfl
    | succ n ih =>
        rw [List.replicate_succ', String.ofList_append, String.utf8ByteSize_append, ih]
        rfl
  unfold slashedDocs
  rw [String.utf8ByteSize_append, hslashes]
  rfl

theorem locate_slashedDocs : dashDisk.locate slashedDocs = .ok ["w", "docs"] := by
  have hchars : slashedDocs.toList = "docs".toList ++ List.replicate 4090 '/' := by
    unfold slashedDocs
    simp only [String.toList_append, String.toList_ofList]
  have hnul : '\x00' ∉ slashedDocs.toList := by
    rw [hchars, List.mem_append, not_or]
    exact ⟨by decide, fun hmem => absurd (List.eq_of_mem_replicate hmem) (by decide)⟩
  have horigin : dashDisk.origin slashedDocs = ["w"] := by
    unfold Disk.origin Path.isAbsolute
    rw [hchars]
    rfl
  have hsegments : Path.segments slashedDocs = ["docs"] := by
    rw [Path.segments_eq, hchars,
      Path.namesOf_append_slashes _ _ fun c hc => List.eq_of_mem_replicate hc]
    rfl
  rw [Disk.locate_eq_ok_iff, horigin, hsegments, utf8ByteSize_slashedDocs]
  refine ⟨?_, ?_, by decide, rfl⟩
  · rw [List.contains_eq_mem]
    exact decide_eq_false hnul
  · rw [← Bool.not_eq_true, String.isEmpty_iff, ← String.toList_inj, hchars]
    exact List.cons_ne_nil _ _

/-- The identifiers need not be in their own order, and a document is not listed if its path is too
    long. -/
theorem identifiers_dashDisk :
    (Library.mk "docs").identifiers dashDisk = .ok ["LDA-", "LDA"] ∧
      ¬["LDA-", "LDA"].Pairwise (· < ·) ∧
      dashDisk.locate slashedDocs = .ok ["w", "docs"] ∧
      dashDisk.get? ["w", "docs"] = some .directory ∧
      dashDisk.get? ["w", "docs", "LDA.md"] = some (.file []) ∧
      (Library.mk slashedDocs).identifiers dashDisk = .ok [] := by
  have hnames : dashDisk.names "docs" = .ok ["LDA-.md", "drafts.md", "LDA.md", "README"] := rfl
  have hfilter : ["LDA-.md", "drafts.md", "LDA.md", "README"].filter
      ((Library.mk "docs").isDocument dashDisk) = ["LDA-.md", "LDA.md"] := rfl
  have hfiles : (Library.mk "docs").fileNames dashDisk = ["LDA-.md", "LDA.md"] := by
    unfold fileNames
    simp only [hnames, hfilter]
    exact List.mergeSort_of_pairwise (by decide)
  have hproper : dashDisk.Proper :=
    dashDisk.proper_of_entries (by decide +kernel) (by decide +kernel)
  have hnone : (Library.mk slashedDocs).fileNames dashDisk = [] := by
    rw [List.eq_nil_iff_forall_not_mem]
    intro name hname
    rcases (mem_fileNames_iff_get? ⟨slashedDocs⟩ dashDisk _ locate_slashedDocs rfl hproper
      name).mp hname with ⟨identifier, rfl, hfits, bs, hfile⟩
    have hrelative := Path.isAbsolute_of_isName _ (isName_of_get? _ hproper _ identifier bs hfile)
    have hsize := Path.le_utf8ByteSize_join slashedDocs _ hrelative
    have hsuffix : documentSuffix.utf8ByteSize = 3 := rfl
    have hlimit : Disk.maxPath = 4096 := rfl
    have hshort := hfits.path
    rw [utf8ByteSize_slashedDocs, String.utf8ByteSize_append] at hsize
    dsimp only at hshort
    omega
  have hfound : dashDisk.isDirectory slashedDocs = true :=
    (dashDisk.isDirectory_iff _).mpr ⟨_, locate_slashedDocs, rfl⟩
  refine ⟨?_, by decide, locate_slashedDocs, rfl, rfl, ?_⟩
  · unfold identifiers
    rw [hfiles]
    rfl
  · rw [identifiers_eq_ok_iff, hnone]
    exact ⟨hfound, rfl⟩

/-- The name with the dash comes first. -/
theorem identifiers_listed_dashDisk :
    dashDisk.Proper ∧ dashDisk.locate "docs" = .ok ["w", "docs"] ∧
      dashDisk.get? ["w", "docs"] = some .directory ∧
      ∃ ids, (Library.mk "docs").identifiers dashDisk = .ok ids ∧ "LDA-" ∈ ids ∧ "LDA" ∈ ids ∧
        "drafts" ∉ ids ∧ ¬KeepsOrder ids ∧ ¬ids.Pairwise (· < ·) ∧
        dashDisk.locate ((Library.mk "docs").path "LDA-") = .ok ["w", "docs", "LDA-.md"] := by
  have hproper : dashDisk.Proper :=
    dashDisk.proper_of_entries (by decide +kernel) (by decide +kernel)
  rcases identifiers_listed ⟨"docs"⟩ dashDisk ["w", "docs"] hproper rfl rfl with
    ⟨ids, hids, -, hmem, -, hown, hpath⟩
  have hdash : "LDA-" ∈ ids := (hmem _).mpr ⟨⟨by decide, by decide, by decide⟩, [], rfl⟩
  have hplain : "LDA" ∈ ids := (hmem _).mpr ⟨⟨by decide, by decide, by decide⟩, [], rfl⟩
  have hdrafts : "drafts" ∉ ids := by
    intro hlisted
    rcases (hmem _).mp hlisted with ⟨-, bs, hfile⟩
    cases hfile
  have hbroken : ¬KeepsOrder ids := fun hkeeps =>
    absurd (hkeeps "LDA" hplain "-" (by decide) hdash) (by decide)
  exact ⟨hproper, rfl, rfl, ids, hids, hdash, hplain, hdrafts, hbroken,
    fun hascend => hbroken (hown.mp hascend), hpath _ hdash⟩

end Library

end Specification

end OpcodeForge
