import OpcodeForge.Proofs.Disk.Names
import OpcodeForge.Proofs.Specification.Identifiers

/-!
# What a Run Sees of a Directory

A run lists a directory and reads the documents in it. Of the disk it sees nothing else, and of
a document only its text, in which every line ends in a line feed. So two disks look alike if
the directory has the same documents on both (`SameDocuments`), wherever on the disk it lies and
whatever else is in it.

A name is listed on one disk exactly if it is on the other, which says nothing yet about the
order in which the two lists come. The names are sorted, and sorted lists without repetitions
are equal if they have the same members.

## Main definitions

* `ReadAlike`: Entries that are documents with one text, or no documents.
* `SameDocuments`: Disks with the same documents in a directory.

## Theorems

* `Library.mem_fileNames_iff_get?`: The names that are listed are those of files.
* `Library.fileNames_congr`, `Library.read_congr`: The same documents are listed and read.
* `Generator.generate_congr`: A run sees no more than that.
-/

namespace OpcodeForge

open OpcodeForge.Path (Fits IsName)

namespace Specification

/-- Entries that are documents with one text, or no documents. What is no text reads alike if it
    is for the same reason. -/
inductive ReadAlike : Option Disk.Entry → Option Disk.Entry → Prop
  | files (bs bs' : List UInt8)
      (h : (Text.decode bs).map Text.unixLines = (Text.decode bs').map Text.unixLines) :
      ReadAlike (some (.file bs)) (some (.file bs'))
  | others (x y : Option Disk.Entry) (hx : ∀ bs, x ≠ some (.file bs))
      (hy : ∀ bs, y ≠ some (.file bs)) : ReadAlike x y

/-- Two disks that have the same documents in a directory, or both have no such directory. -/
structure SameDocuments (d e : Disk) (directory : String) : Prop where
  isDirectory : d.isDirectory directory = e.isDirectory directory
  alike : ∀ l l', d.locate directory = .ok l → d.get? l = some .directory →
    e.locate directory = .ok l' → e.get? l' = some .directory →
    ∀ identifier, ReadAlike (d.get? (l ++ [identifier ++ documentSuffix]))
      (e.get? (l' ++ [identifier ++ documentSuffix]))

theorem ReadAlike.symm (x y : Option Disk.Entry) (h : ReadAlike x y) : ReadAlike y x := by
  cases h with
  | files bs bs' h => exact .files bs' bs h.symm
  | others _ _ hx hy => exact .others y x hy hx

/-- Entries are read alike, if one is a file exactly if the other is, with the same bytes. -/
theorem ReadAlike.of_files (x y : Option Disk.Entry)
    (h : ∀ bs, y = some (.file bs) ↔ x = some (.file bs)) : ReadAlike x y := by
  by_cases hfile : ∃ bs, x = some (.file bs)
  · rcases hfile with ⟨bs, rfl⟩
    rw [(h bs).mpr rfl]
    exact .files bs bs rfl
  · exact .others x y (fun bs hx => hfile ⟨bs, hx⟩) fun bs hy => hfile ⟨bs, (h bs).mp hy⟩

theorem ReadAlike.exists_file (x y : Option Disk.Entry) (bs : List UInt8) (h : ReadAlike x y)
    (hx : x = some (.file bs)) : ∃ bs', y = some (.file bs') ∧
      (Text.decode bs).map Text.unixLines = (Text.decode bs').map Text.unixLines := by
  cases h with
  | files bs₁ bs' h =>
      rw [Option.some.injEq, Disk.Entry.file.injEq] at hx
      exact ⟨bs', rfl, hx ▸ h⟩
  | others _ _ hnone _ => exact absurd hx (hnone bs)

theorem SameDocuments.symm (d e : Disk) (directory : String) (h : SameDocuments d e directory) :
    SameDocuments e d directory :=
  ⟨h.isDirectory.symm, fun l l' hl hdir hl' hdir' identifier =>
    (h.alike l' l hl' hdir' hl hdir identifier).symm⟩

/-- The name of a document ends in the suffix. -/
theorem append_documentSuffix_ne (identifier name : String)
    (h : name.toList.getLast? ≠ some 'd') : identifier ++ documentSuffix ≠ name := by
  rintro rfl
  rw [String.toList_append, List.getLast?_append] at h
  exact h rfl

/-- A document has a name of its own, because of the suffix. -/
theorem isName_document (identifier : String)
    (h : '/' ∉ (identifier ++ documentSuffix).toList) : IsName (identifier ++ documentSuffix) :=
  ⟨append_documentSuffix_ne _ _ (by decide), h, append_documentSuffix_ne _ _ (by decide),
    append_documentSuffix_ne _ _ (by decide)⟩

theorem isName_of_get? (d : Disk) (hd : d.Proper) (l : Location) (identifier : String)
    (bs : List UInt8) (h : d.get? (l ++ [identifier ++ documentSuffix]) = some (.file bs)) :
    IsName (identifier ++ documentSuffix) :=
  isName_document identifier (hd.entry _ (by rw [h]; rfl) _ List.mem_concat_self)

namespace Library

theorem identifiers_eq_ok_iff (lib : Library) (d : Disk) (ids : List String) :
    lib.identifiers d = .ok ids ↔ d.isDirectory lib.directory = true ∧
      (lib.fileNames d).filterMap identifierOf? = ids := by
  unfold identifiers
  cases d.isDirectory lib.directory with
  | true => simp only [if_true, Except.ok.injEq, true_and]
  | false => simp only [Bool.false_eq_true, if_false, reduceCtorEq, false_and]

section

variable (lib : Library) (d : Disk) (l : Location) (hl : d.locate lib.directory = .ok l)
  (hdir : d.get? l = some .directory)

include hl hdir

theorem names_eq : d.names lib.directory = .ok (d.namesAt l) := by
  unfold Disk.names
  simp only [hl, bind, Except.bind, hdir]

/-- The names that are listed are those of files, if their paths can be followed. -/
theorem mem_fileNames_iff_get? (hproper : d.Proper) (name : String) : name ∈ lib.fileNames d ↔
    ∃ identifier, name = identifier ++ documentSuffix ∧ Fits lib.directory name ∧
      ∃ bs, d.get? (l ++ [name]) = some (.file bs) := by
  have hname : ∀ identifier, (d.get? (l ++ [identifier ++ documentSuffix])).isSome = true →
      IsName (identifier ++ documentSuffix) := fun identifier hsome =>
    isName_document identifier (hproper.entry _ hsome _ (List.mem_concat_self))
  have hid : (identifierOf? name).isSome = true ↔
      ∃ identifier, name = identifier ++ documentSuffix := by
    simp only [Option.isSome_iff_exists, identifierOf?_eq_some_iff]
  rw [mem_fileNames_iff, names_eq lib d l hl hdir]
  unfold isDocument
  simp only [Except.ok.injEq, exists_eq_left', Disk.mem_namesAt_iff, Bool.and_eq_true, hid,
    Disk.isFile_iff]
  constructor
  · rintro ⟨hsome, ⟨identifier, rfl⟩, bs, hstored⟩
    rcases (Disk.stored_join_iff d _ _ l hl hdir (hname identifier hsome) bs).mp hstored with
      ⟨hfits, hget⟩
    exact ⟨identifier, rfl, hfits, bs, hget⟩
  · rintro ⟨identifier, rfl, hfits, bs, hget⟩
    have hsome : (d.get? (l ++ [identifier ++ documentSuffix])).isSome = true := by
      rw [hget]
      rfl
    exact ⟨hsome, ⟨identifier, rfl⟩, bs,
      (Disk.stored_join_iff d _ _ l hl hdir (hname identifier hsome) bs).mpr ⟨hfits, hget⟩⟩

end

/-- Of the bytes of a document only the text counts, with line feeds only. -/
theorem read_eq (lib : Library) (d : Disk) (identifier : String) (bs : List UInt8)
    (h : d.read (lib.path identifier) = .ok bs) :
    lib.read d identifier = match (Text.decode bs).map Text.unixLines with
      | .error fault => .error (.specRead identifier (lib.path identifier) (.notText fault))
      | .ok ls => .ok (String.ofList ls) := by
  unfold read
  simp only [h]
  cases Text.decode bs <;> rfl

theorem pairwise_fileNames (lib : Library) (d : Disk) :
    (lib.fileNames d).Pairwise fun a b => decide (a ≤ b) = true := by
  unfold fileNames
  cases d.names lib.directory with
  | error fault => exact List.Pairwise.nil
  | ok names =>
      refine List.pairwise_mergeSort (fun a b c hab hbc => ?_) (fun a b => ?_) _
      · rw [decide_eq_true_eq] at hab hbc ⊢
        exact String.le_trans hab hbc
      · rw [Bool.or_eq_true, decide_eq_true_eq, decide_eq_true_eq]
        exact String.le_total a b

section

variable (lib : Library) (d e : Disk) (hd : d.Proper) (he : e.Proper)

include hd he

theorem mem_fileNames_of_sameDocuments (h : SameDocuments d e lib.directory) (name : String)
    (hname : name ∈ lib.fileNames d) (hdir : d.isDirectory lib.directory = true) :
    name ∈ lib.fileNames e := by
  rcases (Disk.isDirectory_iff d _).mp hdir with ⟨l, hl, hget⟩
  rcases (Disk.isDirectory_iff e _).mp (h.isDirectory ▸ hdir) with ⟨l', hl', hget'⟩
  rcases (mem_fileNames_iff_get? lib d l hl hget hd name).mp hname with
    ⟨identifier, rfl, hfits, bs, hfile⟩
  rcases (h.alike l l' hl hget hl' hget' identifier).exists_file _ _ bs hfile with
    ⟨bs', hfile', -⟩
  exact (mem_fileNames_iff_get? lib e l' hl' hget' he _).mpr ⟨identifier, rfl, hfits, bs', hfile'⟩

/-- The same documents are listed, in the same order. -/
theorem fileNames_congr (h : SameDocuments d e lib.directory)
    (hdir : d.isDirectory lib.directory = true) : lib.fileNames d = lib.fileNames e := by
  have hperm : (lib.fileNames d).Perm (lib.fileNames e) := by
    refine (List.perm_ext_iff_of_nodup (lib.nodup_fileNames d) (lib.nodup_fileNames e)).mpr
      fun name => ⟨fun hname => ?_, fun hname => ?_⟩
    · exact lib.mem_fileNames_of_sameDocuments d e hd he h name hname hdir
    · exact lib.mem_fileNames_of_sameDocuments e d he hd h.symm name hname (h.isDirectory ▸ hdir)
  refine hperm.eq_of_pairwise (fun a b _ _ hab hba => ?_) (lib.pairwise_fileNames d)
    (lib.pairwise_fileNames e)
  exact String.le_antisymm (of_decide_eq_true hab) (of_decide_eq_true hba)

theorem identifiers_congr (h : SameDocuments d e lib.directory) :
    lib.identifiers d = lib.identifiers e := by
  unfold identifiers
  rw [← h.isDirectory]
  split
  · rename_i hdir
    rw [lib.fileNames_congr d e hd he h hdir]
  · rfl

omit he in
/-- A document that is listed has one text on both disks. -/
theorem read_congr (h : SameDocuments d e lib.directory) (ids : List String)
    (hids : lib.identifiers d = .ok ids) (identifier : String) (hmem : identifier ∈ ids) :
    lib.read d identifier = lib.read e identifier := by
  rcases (lib.identifiers_eq_ok_iff d ids).mp hids with ⟨hdir, rfl⟩
  rcases (Disk.isDirectory_iff d _).mp hdir with ⟨l, hl, hget⟩
  rcases (Disk.isDirectory_iff e _).mp (h.isDirectory ▸ hdir) with ⟨l', hl', hget'⟩
  rcases List.mem_filterMap.mp hmem with ⟨name, hname, hid⟩
  rw [identifierOf?_eq_some_iff] at hid
  rw [hid] at hname
  rcases (mem_fileNames_iff_get? lib d l hl hget hd _).mp hname with ⟨-, -, hfits, bs, hfile⟩
  rcases (h.alike l l' hl hget hl' hget' identifier).exists_file _ _ bs hfile with
    ⟨bs', hfile', htext⟩
  have hname := isName_of_get? d hd l identifier bs hfile
  have hread := (Disk.stored_join_iff d _ _ l hl hget hname bs).mpr ⟨hfits, hfile⟩
  have hread' := (Disk.stored_join_iff e _ _ l' hl' hget' hname bs').mpr ⟨hfits, hfile'⟩
  rw [Disk.stored_eq_some_iff_read] at hread hread'
  rw [lib.read_eq d identifier bs hread, lib.read_eq e identifier bs' hread', htext]

end

end Library

end Specification

namespace Generator

open Specification (Headings Library SameDocuments)

/-- Documents that are read alike are read alike together. -/
theorem readDocuments_congr (headings : Headings) (lib : Library) (d e : Disk)
    (ids : List String)
    (h : ∀ id ∈ ids, readDocument headings lib d id = readDocument headings lib e id) :
    readDocuments headings lib d ids = readDocuments headings lib e ids := by
  induction ids with
  | nil => rfl
  | cons id rest ih =>
      unfold readDocuments
      rw [h id List.mem_cons_self, ih fun x hx => h x (List.mem_cons_of_mem id hx)]

section

variable (g : Generator) (d e : Disk) (directory : String)
  (hdirectory : g.settings.specDirectory = .text directory) (hd : d.Proper) (he : e.Proper)
  (h : SameDocuments d e directory)

include hdirectory hd he h

/-- The same documents are found, and read the same. -/
theorem documents_congr :
    documents d g.settings.specDirectory = documents e g.settings.specDirectory ∧
      ∀ lib ids, documents d g.settings.specDirectory = .ok (lib, ids) → ∀ id ∈ ids,
        readDocument g.settings.headings lib d id = readDocument g.settings.headings lib e id := by
  have hids := (Library.mk directory).identifiers_congr d e hd he h
  rw [hdirectory]
  constructor
  · simp only [documents, hids]
  · intro lib ids hdocs id hid
    unfold documents at hdocs
    cases hfound : (Library.mk directory).identifiers d with
    | error f => simp only [hfound, reduceCtorEq] at hdocs
    | ok found =>
        simp only [hfound, Except.ok.injEq, Prod.mk.injEq] at hdocs
        rcases hdocs with ⟨rfl, rfl⟩
        unfold readDocument
        rw [(Library.mk directory).read_congr d e hd h found hfound id hid]

/-- A run makes the same, or has the same faults, where the documents are the same. -/
theorem generate_congr : g.generate d = g.generate e := by
  rcases documents_congr g d e directory hdirectory hd he h with ⟨hdocs, hread⟩
  unfold generate
  rw [← hdocs]
  cases hfound : documents d g.settings.specDirectory with
  | error f => rfl
  | ok found =>
      dsimp only
      rw [readDocuments_congr _ _ d e found.2 (hread found.1 found.2 hfound)]

end

end Generator

end OpcodeForge
