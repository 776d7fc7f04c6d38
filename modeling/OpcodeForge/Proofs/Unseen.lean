import OpcodeForge.Proofs.Generation
import OpcodeForge.Proofs.Specification.Listing
import OpcodeForge.Proofs.Text.LineEnds

/-!
# What a Run Does Not See

A run that is set up reads documents and nothing else. It does not see how the lines of a
document end, nor what else is in the directory: files with other names, and directories even
if they are named like documents. Where the directory lies and what else is on the disk it sees
just as little. So what it makes, what it reports and what it tells are the same on any two disks
that have the same documents but for the ends of their lines.

## Main definitions

* `SameLines`: Entries that are one document but for the ends of its lines, or no documents.

## Theorems

* `readAlike_of_sameLines`: Such entries are read alike.
* `Generator.generate_of_sameLines`: What a run makes of such entries.
-/

namespace OpcodeForge

open Specification (ReadAlike SameDocuments documentSuffix)

/-- Entries that are one document but for the ends of its lines, or no documents. -/
inductive SameLines : Option Disk.Entry → Option Disk.Entry → Prop
  | files (bs bs' : List UInt8) (cs cs' ls : List Char) (hdecode : Text.decode bs = .ok cs)
      (hdecode' : Text.decode bs' = .ok cs') (hreads : Text.ReadsAs cs ls)
      (hreads' : Text.ReadsAs cs' ls) : SameLines (some (.file bs)) (some (.file bs'))
  | others (x y : Option Disk.Entry) (hx : ∀ bs, x ≠ some (.file bs))
      (hy : ∀ bs, y ≠ some (.file bs)) : SameLines x y

theorem readAlike_of_sameLines (x y : Option Disk.Entry) (h : SameLines x y) :
    ReadAlike x y := by
  cases h with
  | files bs bs' cs cs' ls hdecode hdecode' hreads hreads' =>
      refine .files bs bs' ?_
      rw [hdecode, hdecode', Except.map, Except.map, (Text.readsAs_iff cs ls).mp hreads,
        (Text.readsAs_iff cs' ls).mp hreads']
  | others _ _ hx hy => exact .others x y hx hy

namespace Generator

/-- A run makes the same, or has the same faults, and tells the same, on two disks that have the
    same documents in its directory but for the ends of their lines. -/
theorem generate_of_sameLines (g : Generator) (d e : Disk) (directory : String)
    (l l' : Location) (hdirectory : g.settings.specDirectory = .text directory)
    (hd : d.Proper) (he : e.Proper) (hl : d.locate directory = .ok l)
    (hdir : d.get? l = some .directory) (hl' : e.locate directory = .ok l')
    (hdir' : e.get? l' = some .directory)
    (h : ∀ identifier, SameLines (d.get? (l ++ [identifier ++ documentSuffix]))
      (e.get? (l' ++ [identifier ++ documentSuffix]))) :
    g.generate d = g.generate e := by
  have hsame : SameDocuments d e directory := by
    refine ⟨?_, fun k k' hk _ hk' _ identifier => ?_⟩
    · rw [(d.isDirectory_iff directory).mpr ⟨l, hl, hdir⟩,
        (e.isDirectory_iff directory).mpr ⟨l', hl', hdir'⟩]
    · rw [← Except.ok.inj (hl.symm.trans hk), ← Except.ok.inj (hl'.symm.trans hk')]
      exact readAlike_of_sameLines _ _ (h identifier)
  exact g.generate_congr d e directory hdirectory hd he hsame

/-- A text with other ends of lines, which are in turn a carriage return alone and one with a line
    feed after it. -/
def otherEnds (pair : Bool) : List Char → List Char
  | [] => []
  | c :: rest =>
    if c = '\n' then '\r' :: (if pair then '\n' :: otherEnds false rest else otherEnds true rest)
    else c :: otherEnds pair rest

/-- No line feed is left but those after a carriage return. -/
theorem head?_otherEnds (pair : Bool) (cs : List Char) :
    (otherEnds pair cs).head? ≠ some '\n' := by
  cases cs with
  | nil => simp only [otherEnds, List.head?_nil, ne_eq, reduceCtorEq, not_false_eq_true]
  | cons c rest =>
      rw [otherEnds]
      split
      · rw [List.head?_cons]
        decide
      · rename_i hc
        rw [List.head?_cons]
        exact fun hfeed => hc (Option.some.inj hfeed)

theorem readsAs_otherEnds (cs : List Char) (h : '\r' ∉ cs) :
    ∀ pair, Text.ReadsAs (otherEnds pair cs) cs := by
  induction cs with
  | nil => exact fun _ => .nil
  | cons c rest ih =>
      intro pair
      rw [List.mem_cons, not_or] at h
      rw [otherEnds]
      split
      · rename_i hc
        rw [hc]
        cases pair with
        | true => exact .pair _ _ (ih h.2 false)
        | false => exact .lone _ _ (head?_otherEnds true rest) (ih h.2 true)
      · exact .other c _ _ (Ne.symm h.1) (ih h.2 pair)

/-- The document of `loadDisk` with other ends of lines, among other things, in a directory that
    lies elsewhere. -/
def otherDisk : Disk :=
  ⟨["v"], [(["v"], .directory), (["v", "docs"], .directory),
    (["v", "docs", "drafts.md"], .directory), (["v", "docs", "drafts.md", "LDX.md"], .file []),
    (["v", "docs", "README"], .file [255]),
    (["v", "docs", "LDA.md"],
      .file (Text.encode (String.ofList (otherEnds false loadDraft.text.toList))))]⟩

theorem get?_loadDisk (name : String) (hname : name ≠ "LDA.md") :
    loadDisk.get? ["w", "docs", name] = none := by
  have hne : ¬"LDA.md" = name := Ne.symm hname
  simp [loadDisk, Disk.get?, Disk.lookupEntry, hne]

theorem get?_otherDisk (name : String) (hname : name ≠ "LDA.md") (hreadme : name ≠ "README")
    (bs : List UInt8) : otherDisk.get? ["v", "docs", name] ≠ some (.file bs) := by
  have hne : ¬"LDA.md" = name := Ne.symm hname
  have hne' : ¬"README" = name := Ne.symm hreadme
  by_cases hdrafts : "drafts.md" = name
  · simp [otherDisk, Disk.get?, Disk.lookupEntry, hdrafts]
  · simp [otherDisk, Disk.get?, Disk.lookupEntry, hne, hne', hdrafts]

theorem sameLines_otherDisk (identifier : String) :
    SameLines (loadDisk.get? (["w", "docs"] ++ [identifier ++ documentSuffix]))
      (otherDisk.get? (["v", "docs"] ++ [identifier ++ documentSuffix])) := by
  by_cases hname : identifier ++ documentSuffix = "LDA.md"
  · have hreturn := loadDraft.not_mem_text (by decide +kernel)
    rw [hname]
    refine .files _ _ _ _ loadDraft.text.toList (Text.decode_encode _) (Text.decode_encode _)
      ((Text.readsAs_iff _ _).mpr (Text.unixLines_eq_self _ hreturn)) ?_
    rw [String.toList_ofList]
    exact readsAs_otherEnds _ hreturn false
  · refine .others _ _ (fun bs => ?_) fun bs => ?_
    · rw [List.cons_append, List.cons_append, List.nil_append, get?_loadDisk _ hname]
      simp only [ne_eq, reduceCtorEq, not_false_eq_true]
    · exact get?_otherDisk _ hname
        (Specification.append_documentSuffix_ne identifier _ (by decide)) bs

/-- The document is found and read on both disks. -/
theorem generate_of_sameLines_otherDisk :
    loadDisk.Proper ∧ otherDisk.Proper ∧
      (∀ identifier, SameLines (loadDisk.get? (["w", "docs"] ++ [identifier ++ documentSuffix]))
        (otherDisk.get? (["v", "docs"] ++ [identifier ++ documentSuffix]))) ∧
      ∃ b, ((loadRun 2).generate otherDisk).2 = .ok (rendered ⟨[loadInstruction], [], []⟩ b) := by
  have hproper : loadDisk.Proper :=
    loadDisk.proper_of_entries (by decide +kernel) (by decide +kernel)
  have hproper' : otherDisk.Proper :=
    otherDisk.proper_of_entries (by decide +kernel) (by decide +kernel)
  have hsame := generate_of_sameLines (loadRun 2) loadDisk otherDisk "docs" ["w", "docs"]
    ["v", "docs"] rfl hproper hproper' rfl rfl rfl rfl sameLines_otherDisk
  rcases generate_loadRun with ⟨b, -, hmade⟩
  exact ⟨hproper, hproper', sameLines_otherDisk, b, by rw [← hsame, hmade]⟩

end Generator

end OpcodeForge
