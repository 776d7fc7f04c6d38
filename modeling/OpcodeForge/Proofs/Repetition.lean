import OpcodeForge.Proofs.Output.Repeating
import OpcodeForge.Proofs.Unseen

/-!
# Repeated Runs

A run that is repeated finds what it has made. This could change what it reads, for outputs may
lie in the directory of the documents, and the directories that the run makes may lie there too.
But a new directory is no document, and neither is an output if it is not named like one. So the
second run is set up as the first was, reads the same documents, and makes the same outputs,
and these are already there.

## Main definitions

* `Generator.referencePath?`: The file that a run reads its reference from.

## Theorems

* `Disk.Proper.destination`: A destination has names without slashes.
* `Output.Replaced.proper`: The disk stays proper.
* `Output.Replaced.sameDocuments`: The documents stay the same.
* `Generator.ofSettings_of_spares`: A run is set up the same.
* `Generator.run_eq_ok_iff`: What a run that succeeds has done.
* `Generator.run_again`: A second run succeeds, and leaves the disk as it is.
-/

namespace OpcodeForge

open Addressing (Registry)
open Opcode (ReferenceRow)
open Specification (ReadAlike SameDocuments documentSuffix)

namespace Path

theorem mem_of_mem_straighten (names : List String) (name : String) :
    ∀ kept, name ∈ straighten kept names → name ∈ kept ∨ name ∈ names := by
  induction names with
  | nil =>
      intro kept h
      rw [straighten, List.mem_reverse] at h
      exact Or.inl h
  | cons s rest ih =>
      intro kept h
      rw [straighten] at h
      split at h
      · exact (ih kept h).imp_right (List.mem_cons_of_mem s)
      · split at h
        · exact (ih kept.tail h).imp List.mem_of_mem_tail (List.mem_cons_of_mem s)
        · rcases ih (s :: kept) h with h | h
          · rcases List.mem_cons.mp h with rfl | h
            · exact Or.inr List.mem_cons_self
            · exact Or.inl h
          · exact Or.inr (List.mem_cons_of_mem s h)

theorem no_slash_of_mem_segments (p name : String) (h : name ∈ segments p) :
    '/' ∉ name.toList := by
  rcases List.mem_map.mp h with ⟨cs, hcs, rfl⟩
  rw [String.toList_ofList]
  exact Text.not_mem_of_mem_pieces '/' _ _ (List.mem_filter.mp hcs).1

end Path

namespace Disk

/-- A destination has names without slashes. -/
theorem Proper.destination (d : Disk) (h : d.Proper) (p name : String)
    (hname : name ∈ d.destination p) : '/' ∉ name.toList := by
  rcases Path.mem_of_mem_straighten _ name _ hname with hmem | hmem
  · rw [List.mem_reverse] at hmem
    unfold origin at hmem
    split at hmem
    · exact absurd hmem List.not_mem_nil
    · exact h.here name hmem
  · exact Path.no_slash_of_mem_segments p name hmem

end Disk

namespace Output

open Disk

section

variable (d e : Disk) (p q first second : String) (h : Replaced d e p q first second)

include h

/-- The disk stays proper. -/
theorem Replaced.proper (hd : d.Proper) : e.Proper := by
  refine ⟨h.spares.here ▸ hd.here, fun k hk => ?_⟩
  cases hget : e.get? k with
  | none =>
      rw [hget] at hk
      exact absurd hk (by decide)
  | some x =>
      cases x with
      | directory =>
          rcases h.makesOnly.directory k hget with hold | ⟨r, -, rfl⟩
          · exact hd.entry k (by rw [hold]; rfl)
          · exact hd.destination d r
      | file bs =>
          -- A file is new at a site only, and a site is the destination of a path.
          by_cases hsite : k ∈ sites d p q
          · have hplace : ∃ r, k = d.destination r := by
              simp only [sites, List.mem_cons, List.not_mem_nil, or_false] at hsite
              rcases hsite with hk | hk | hk | hk <;> exact ⟨_, hk⟩
            rcases hplace with ⟨r, rfl⟩
            exact hd.destination d r
          · have hold := (h.spares.file k hsite bs).mp hget
            exact hd.entry k (by rw [hold]; rfl)

/-- The documents stay the same, if no site is one. -/
theorem Replaced.sameDocuments (directory : String) (hdir : d.isDirectory directory = true)
    (hsites : ∀ k ∈ sites d p q, ∀ identifier,
      k ≠ d.destination directory ++ [identifier ++ documentSuffix]) :
    SameDocuments d e directory := by
  rcases (isDirectory_iff d directory).mp hdir with ⟨k, hk, hget⟩
  have hk' := h.spares.locate _ d e directory k hk
  refine ⟨?_, fun l l' hl _ hl' _ identifier => ?_⟩
  · rw [hdir, (isDirectory_iff e directory).mpr ⟨k, hk', h.spares.directory k hget⟩]
  · have hll : l = l' := by
      rw [← Except.ok.inj (hk.symm.trans hl), Except.ok.inj (hk'.symm.trans hl')]
    have hnot : l ++ [identifier ++ documentSuffix] ∉ sites d p q := fun hmem =>
      hsites _ hmem identifier (by rw [eq_destination_of_locate d directory l hl])
    rw [← hll]
    exact .of_files _ _ (h.spares.file _ hnot)

end

end Output

namespace Generator

open Disk

/-- A value is read the same, unless its file was touched. -/
theorem readValue_of_spares (t : List Location) (d e : Disk) (h : Spares t d e)
    (unreadable : String → String → Fault → ConfigFault) (path : Value)
    (hfile : ∀ p, path.diskPath? = some p → d.destination p ∉ t) (v : Value)
    (hv : Settings.readValue unreadable d path = .ok v) :
    Settings.readValue unreadable e path = .ok v := by
  unfold Settings.readValue at hv ⊢
  cases hpath : path.diskPath? with
  | none => simp only [hpath, reduceCtorEq] at hv
  | some p =>
      simp only [hpath] at hv ⊢
      cases hbytes : d.read p with
      | error f =>
          rw [hbytes] at hv
          cases f <;> cases hv
      | ok bytes =>
          have hstored := h.stored t d e p bytes (hfile p hpath)
            ((stored_eq_some_iff_read d p bytes).mpr hbytes)
          rw [(stored_eq_some_iff_read e p bytes).mp hstored]
          rwa [hbytes] at hv

/-- The file that a run reads its reference from, if it reads one. -/
def referencePath? (settings : Settings) (reference : Option (List ReferenceRow)) :
    Option String :=
  if reference.isNone && settings.referenceFile.isTruthy then settings.referenceFile.diskPath?
  else none

/-- A run is set up the same, unless the file of its reference was touched. -/
theorem ofSettings_of_spares (t : List Location) (d e : Disk) (h : Spares t d e)
    (settings : Settings) (registry : Registry) (reference : Option (List ReferenceRow))
    (hfile : ∀ path ∈ referencePath? settings reference, d.destination path ∉ t)
    (g : Generator) (hg : ofSettings d settings registry reference = .ok g) :
    ofSettings e settings registry reference = .ok g := by
  rw [ofSettings_eq_ok_iff] at hg ⊢
  rcases hg with ⟨hsettings, hflags, hrows⟩
  refine ⟨hsettings, hflags, ?_⟩
  cases reference with
  | some given => exact hrows
  | none =>
      by_cases htruthy : settings.referenceFile.isTruthy = true
      · simp only [referencePath?, Option.isNone_none, htruthy, Bool.and_self, if_true] at hfile
        simp only [chooseReference, htruthy, if_true, Opcode.loadReference] at hrows ⊢
        cases hv : Settings.readValue .referenceUnreadable d settings.referenceFile with
        | error x => simp only [hv, bind, Except.bind, reduceCtorEq] at hrows
        | ok v =>
            rw [readValue_of_spares t d e h _ _ hfile v hv]
            rwa [hv] at hrows
      · simp only [chooseReference, if_neg htruthy] at hrows ⊢
        exact hrows

/-- What a run that succeeds has done. -/
theorem run_eq_ok_iff (g : Generator) (d e : Disk) (log : List Log.Line) (made : Generation) :
    g.run d = ⟨e, log, .ok made⟩ ↔
      ∃ told wrote, g.generate d = (told, .ok made) ∧ log = told ++ wrote ∧
        Output.write d g.settings.instructionsPath g.settings.dispatchPath made.bodies made.dispatch
          = ⟨e, wrote, .ok ()⟩ := by
  unfold run
  rcases g.generate d with ⟨told, x | made'⟩
  · simp only [Outcome.mk.injEq, Prod.mk.injEq, reduceCtorEq, and_false, false_and, exists_false]
  · dsimp only
    constructor
    · intro h
      rcases hwrite : Output.write d g.settings.instructionsPath g.settings.dispatchPath
        made'.bodies made'.dispatch with ⟨f, wrote, x | u⟩
      · simp only [hwrite, Except.map, Outcome.mk.injEq, reduceCtorEq, and_false] at h
      · simp only [hwrite, Except.map, Outcome.mk.injEq, Except.ok.injEq] at h
        rcases h with ⟨rfl, rfl, rfl⟩
        exact ⟨told, wrote, rfl, rfl, hwrite⟩
    · rintro ⟨told', wrote, hmade, rfl, hwrite⟩
      rcases Prod.mk.inj hmade with ⟨rfl, hok⟩
      rw [Except.ok.inj hok, hwrite]
      rfl

/-- Where the outputs go makes no difference to what is made. -/
theorem generate_of_settings (g h : Generator) (d : Disk)
    (hdirectory : h.settings.specDirectory = g.settings.specDirectory)
    (hheadings : h.settings.headings = g.settings.headings) (hregistry : h.registry = g.registry)
    (hreference : h.reference = g.reference) : h.generate d = g.generate d := by
  unfold generate assemble
  rw [hdirectory, hheadings, hregistry, hreference]

/-- A run that succeeds has found its directory. -/
theorem isDirectory_of_generate (g : Generator) (d : Disk) (directory : String)
    (hdirectory : g.settings.specDirectory = .text directory) (told : List Log.Line)
    (made : Generation) (h : g.generate d = (told, .ok made)) :
    d.isDirectory directory = true := by
  unfold generate documents at h
  rw [hdirectory] at h
  cases hids : (Specification.Library.mk directory).identifiers d with
  | error f =>
      simp only [hids, Prod.mk.injEq, reduceCtorEq, and_false] at h
  | ok ids =>
      exact ((Specification.Library.mk directory).identifiers_eq_ok_iff d ids).mp hids |>.1

/-- A run that succeeds can be repeated. It is set up the same, succeeds again, tells the same and
    makes the same, and the disk is afterwards what it was before, with every file and every
    directory. The outputs and their temporary files have to be four locations, and none of them
    that of a document or of the file that the reference is read from. -/
theorem run_again (d e : Disk) (settings : Settings) (registry : Registry)
    (reference : Option (List ReferenceRow)) (directory p q : String) (g : Generator)
    (log : List Log.Line) (made : Generation) (hd : d.Proper)
    (hdirectory : settings.specDirectory = .text directory)
    (hp : settings.instructionsPath = .text p) (hq : settings.dispatchPath = .text q)
    (hsites : (Output.sites d p q).Nodup)
    (hdocuments : ∀ k ∈ Output.sites d p q, ∀ identifier,
      k ≠ d.destination directory ++ [identifier ++ documentSuffix])
    (hfile : ∀ path ∈ referencePath? settings reference,
      d.destination path ∉ Output.sites d p q)
    (hg : ofSettings d settings registry reference = .ok g)
    (h : g.run d = ⟨e, log, .ok made⟩) :
    ofSettings e settings registry reference = .ok g ∧ g.run e = ⟨e, log, .ok made⟩ := by
  have hsettings := ((ofSettings_eq_ok_iff d settings registry reference g).mp hg).1
  rcases (run_eq_ok_iff g d e log made).mp h with ⟨told, wrote, hmade, hlog, hwrite⟩
  rw [hsettings, hp, hq] at hwrite
  have hreplaced := Output.replaced_of_write d e p q _ _ wrote hsites hwrite
  have hdirectory' : g.settings.specDirectory = .text directory := by rw [hsettings, hdirectory]
  -- The outputs may lie in the directory, but none of them is a document.
  have hsame := hreplaced.sameDocuments d e p q _ _ directory
    (g.isDirectory_of_generate d directory hdirectory' told made hmade) hdocuments
  have he := hreplaced.proper d e p q _ _ hd
  refine ⟨ofSettings_of_spares _ d e hreplaced.spares settings registry reference hfile g hg, ?_⟩
  rw [run_eq_ok_iff, ← g.generate_congr d e directory hdirectory' hd he hsame, hsettings, hp, hq]
  exact ⟨told, wrote, hmade, hlog,
    Output.write_again d e p q _ _ wrote hsites hwrite⟩

/-- A run whose outputs go into the directory of its document. -/
def nestedRun : Generator :=
  { loadRun 2 with settings := { (loadRun 2).settings with
    instructionsPath := .text "docs/out/a.rs", dispatchPath := .text "docs/b.rs" } }

/-- The disk after that run. -/
def nestedDisk (first second : String) : Disk :=
  { loadDisk with entries := loadDisk.entries ++ [(["w", "docs", "out"], .directory),
    (["w", "docs", "out", "a.rs"], .file (Text.encode first)),
    (["w", "docs", "b.rs"], .file (Text.encode second))] }

theorem sites_nestedRun : Output.sites loadDisk "docs/out/a.rs" "docs/b.rs"
    = [["w", "docs", "out", "a.rs"], ["w", "docs", "out", "a.rs.tmp"], ["w", "docs", "b.rs"],
      ["w", "docs", "b.rs.tmp"]] := rfl

theorem ne_document_of_mem_sites_nestedRun (k : Location)
    (hk : k ∈ Output.sites loadDisk "docs/out/a.rs" "docs/b.rs") (identifier : String) :
    k ≠ loadDisk.destination "docs" ++ [identifier ++ documentSuffix] := by
  have hlast : ∀ m : Location, (m.getLast?.bind (·.toList.getLast?)) ≠ some 'd' →
      m ≠ loadDisk.destination "docs" ++ [identifier ++ documentSuffix] := by
    rintro m hm rfl
    rw [List.getLast?_concat, Option.bind_some, String.toList_append, List.getLast?_append] at hm
    exact hm rfl
  refine hlast k ?_
  rw [sites_nestedRun] at hk
  revert k
  decide

set_option maxRecDepth 8000 in
theorem write_nestedRun (first second : String) :
    ∃ log, Output.write loadDisk (.text "docs/out/a.rs") (.text "docs/b.rs") first second
      = ⟨nestedDisk first second, log, .ok ()⟩ := ⟨_, rfl⟩

/-- The directory has new entries after the first run, and the second run finds the same
    document. -/
theorem run_again_nestedRun :
    loadDisk.Proper ∧ (Output.sites loadDisk "docs/out/a.rs" "docs/b.rs").Nodup ∧
      ofSettings loadDisk nestedRun.settings Registry.default (some (onePlaceholder 2))
        = .ok nestedRun ∧
      ∃ log made, nestedRun.run loadDisk = ⟨nestedDisk made.bodies made.dispatch, log, .ok made⟩ ∧
        nestedRun.run (nestedDisk made.bodies made.dispatch)
          = ⟨nestedDisk made.bodies made.dispatch, log, .ok made⟩ := by
  have hproper : loadDisk.Proper :=
    loadDisk.proper_of_entries (by decide +kernel) (by decide +kernel)
  have hsites : (Output.sites loadDisk "docs/out/a.rs" "docs/b.rs").Nodup := by
    rw [sites_nestedRun]
    decide
  have hset : ofSettings loadDisk nestedRun.settings Registry.default (some (onePlaceholder 2))
      = .ok nestedRun := rfl
  rcases generate_loadRun with ⟨b, -, hmade⟩
  rw [← generate_of_settings (loadRun 2) nestedRun loadDisk rfl rfl rfl rfl] at hmade
  rcases hgenerate : nestedRun.generate loadDisk with ⟨told, result⟩
  rw [hgenerate] at hmade
  rcases write_nestedRun (rendered ⟨[loadInstruction], [], []⟩ b).bodies
    (rendered ⟨[loadInstruction], [], []⟩ b).dispatch with ⟨wrote, hwrite⟩
  have hrun : nestedRun.run loadDisk = ⟨_, _, .ok _⟩ :=
    (run_eq_ok_iff nestedRun loadDisk _ _ _).mpr
      ⟨told, wrote, hgenerate.trans (Prod.ext rfl hmade), rfl, hwrite⟩
  have hagain := run_again loadDisk _ nestedRun.settings Registry.default
    (some (onePlaceholder 2)) "docs" "docs/out/a.rs" "docs/b.rs" nestedRun _ _ hproper rfl rfl rfl
    hsites ne_document_of_mem_sites_nestedRun (fun _ h => absurd h (Option.not_mem_none _)) hset hrun
  exact ⟨hproper, hsites, hset, _, _, hrun, hagain.2⟩

end Generator

end OpcodeForge
