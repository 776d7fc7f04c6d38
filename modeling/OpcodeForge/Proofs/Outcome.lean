import OpcodeForge.Proofs.Addressing
import OpcodeForge.Proofs.Opcode.Faults
import OpcodeForge.Proofs.Opcode.Slots
import OpcodeForge.Proofs.Rendering.Dispatch
import OpcodeForge.Proofs.Specification.Documents

/-!
# Outcomes of a Run

A run makes its outputs or reports everything that is wrong, and nothing lies in
between, apart from a heading that a report would have to name and cannot. Faults come
from the documents, from the reference and from the rows, and each of the three is
looked at in full whatever was found in the others (`assemble_eq`).

That a run without faults also makes its outputs is not for granted, since rendering
could still stop. It cannot, because an entry that got into the table has a mode whose
code is enabled and a number of cycles that can be written (`canRender_of_holds`). For
the first it matters that the registry is that of the processor with some flags set.

## Main definitions

* `Generator.Faultless`: What must hold for a run to make its outputs.
* `Generator.failures`: Everything that is wrong, in the order of the report.

## Theorems

* `canRender_of_holds`: What a run has put into the slots can be rendered.
* `assemble_eq`: Collecting gives the outputs or all faults.
* `failures_eq_nil_iff`: When nothing is wrong.
* `generate_of_unnameable`, `generate_of_nameable`: What a run makes or reports, depending
  on whether every report has a text.
* `generate_iff_faultless`: When a run makes its outputs, and what it reports otherwise.
-/

namespace OpcodeForge

open Addressing (Registry defaultCapabilities)
open Opcode
open Specification

namespace Generator

/-- What is wrong with the documents, then with the reference, and then with the rows. -/
def failures (g : Generator) (lib : Library) (d : Disk) (ids : List String) : List Failure :=
  documentFailures g.settings.headings lib d ids ++
    (referenceFailures g.registry 0 g.reference ++
      rowFailures g.registry [] (rowsOf (specified g.settings.headings lib d ids)))

/-- What must hold for a run to make its outputs. Documents are listed in the order of
    `ids`, which only the rows depend on. -/
structure Faultless (g : Generator) (lib : Library) (d : Disk) (ids : List String) : Prop where
  /-- Every document is a text. -/
  text : ∀ id bytes, lib.Lists d id → d.read (lib.path id) = .ok bytes →
    ∃ cs, Text.decode bytes = .ok cs
  /-- Every document has the section that must be there. -/
  implementation : ∀ id bytes cs, lib.Lists d id → d.read (lib.path id) = .ok bytes →
    Text.decode bytes = .ok cs → HasImplementation g.settings.headings (documentBlocks cs)
  /-- The modes of the defaults are enabled. -/
  default : ∀ r ∈ g.reference, isPlaceholder r.name = true →
    g.registry.isEnabledCode r.mode = true
  /-- Every row declares an entry. -/
  row : ∀ x ∈ rowsOf (specified g.settings.headings lib d ids),
    ∃ e, Declares g.registry x.1 x.2 e
  /-- No two rows declare one opcode. -/
  apart : (rowsOf (specified g.settings.headings lib d ids)).Pairwise (Apart g.registry)

theorem failures_eq_nil_iff (g : Generator) (lib : Library) (d : Disk) (ids : List String)
    (h : lib.identifiers d = .ok ids) : g.failures lib d ids = [] ↔ g.Faultless lib d ids := by
  have hdocuments : documentFailures g.settings.headings lib d ids = [] ↔
      ∀ id bytes, lib.Lists d id → d.read (lib.path id) = .ok bytes →
        ∃ cs, Text.decode bytes = .ok cs ∧
          HasImplementation g.settings.headings (documentBlocks cs) := by
    unfold documentFailures
    rw [List.filterMap_eq_nil_iff]
    constructor
    · intro hnone id bytes hid hread
      exact (documentFailure?_eq_none_iff _ lib d id bytes hread).mp
        (hnone id ((lib.mem_identifiers_iff d ids h id).mpr hid))
    · intro hall id hmem
      have hid := (lib.mem_identifiers_iff d ids h id).mp hmem
      rcases d.read_of_isFile _ hid.2 with ⟨bytes, hread⟩
      exact (documentFailure?_eq_none_iff _ lib d id bytes hread).mpr (hall id bytes hid hread)
  unfold failures
  rw [List.append_eq_nil_iff, List.append_eq_nil_iff, hdocuments, referenceFailures_eq_nil_iff,
    rowFailures_eq_nil_iff]
  constructor
  · rintro ⟨hdocument, hdefault, hrow, hapart⟩
    refine ⟨fun id bytes hid hread => ?_, fun id bytes cs hid hread hdecode => ?_, hdefault, hrow,
      hapart⟩
    · rcases hdocument id bytes hid hread with ⟨cs, hdecode, _⟩
      exact ⟨cs, hdecode⟩
    · rcases hdocument id bytes hid hread with ⟨cs', hdecode', himpl⟩
      rw [hdecode', Except.ok.injEq] at hdecode
      rw [← hdecode]
      exact himpl
  · intro hf
    refine ⟨fun id bytes hid hread => ?_, hf.default, hf.row, hf.apart⟩
    rcases hf.text id bytes hid hread with ⟨cs, hdecode⟩
    exact ⟨cs, hdecode, hf.implementation id bytes cs hid hread hdecode⟩

/-- What a run has put into the slots can be rendered. -/
theorem canRender_of_holds (registry : Registry) (reference : List ReferenceRow)
    (start b : Builder) (seen : List (Instruction × Row))
    (hcodes : ∀ label c, registry.enabledLabel? label = some c →
      registry.byCode? c.code = some c)
    (hwritable : ∀ r ∈ reference, r.cycles.isWritable = true)
    (hread : ∀ x ∈ seen, x.2.HasReadableCycles) (hregistry : start.registry = registry)
    (hslots : ∀ k : Fin opcodeSpace, start.get? k = reference[k.val]?.bind (default? registry k))
    (h : Holds start seen b) : ∀ e ∈ b.entries, Rendering.CanRender registry e := by
  intro e he
  rcases (b.mem_entries_iff e).mp he with ⟨k, hk⟩
  rw [h.slots k, hregistry, Option.or_eq_some_iff] at hk
  rcases hk with hfirst | ⟨_, hstart⟩
  · rcases declares_of_firstDeclared? registry k.val seen e hfirst with ⟨hopcode, x, hx, hdec⟩
    rcases mode_of_declares registry x.1 x.2 e hdec with ⟨label, c, hlabel, hmode⟩
    refine ⟨⟨k, hopcode⟩, isWritable_of_declares registry x.1 x.2 e hdec (hread x hx), ?_⟩
    unfold Registry.isEnabledCode
    rw [hmode, hcodes label c hlabel]
    rfl
  · rw [hslots k] at hstart
    rcases Option.bind_eq_some_iff.mp hstart with ⟨r, hr, hdefault⟩
    unfold default? at hdefault
    split at hdefault
    · rename_i hseeds
      rw [← Option.some.inj hdefault]
      exact ⟨⟨k, rfl⟩, hwritable r (List.mem_of_getElem? hr), (Bool.and_eq_true_iff.mp hseeds).2⟩
    · exact absurd hdefault (by simp only [reduceCtorEq, not_false_eq_true])

/-- A fresh builder is one that has been given the reference. -/
theorem seed_of_fresh (registry : Registry) (reference : List ReferenceRow) (start : Builder)
    (h : Builder.fresh registry (some reference) = .ok start) :
    ∃ count, (Builder.empty registry).seed reference = .ok (start, count) := by
  unfold Builder.fresh at h
  cases hs : (Builder.empty registry).seed reference with
  | error f => simp only [hs, Except.map, reduceCtorEq] at h
  | ok seeded =>
      simp only [hs, Except.map, Except.ok.injEq] at h
      exact ⟨seeded.2, by rw [← h]⟩

/-- If the reference and all rows are gone through, then what is left is to report or to render. -/
theorem assemble_eq_finish (g : Generator) (reading : Reading) (start b : Builder) (count : Nat)
    (log : List Log.Line) (hseed : (Builder.empty g.registry).seed g.reference = .ok (start, count))
    (hrun : addAll start reading.instructions = (b, log, .ok ())) :
    (g.assemble reading).2 = finish g.registry reading b := by
  unfold assemble
  simp only [hseed, hrun]
  cases finish g.registry reading b <;> rfl

/-- Everything that is wrong is reported, and if nothing is then the outputs are made. -/
theorem assemble_eq (g : Generator) (reading : Reading)
    (hcodes : ∀ label c, g.registry.enabledLabel? label = some c →
      g.registry.byCode? c.code = some c)
    (hlen : g.reference.length = opcodeSpace)
    (hwritable : ∀ r ∈ g.reference, r.cycles.isWritable = true)
    (hread : ∀ x ∈ rowsOf reading.instructions, x.2.HasReadableCycles) :
    let all := reading.failures ++ (referenceFailures g.registry 0 g.reference ++
      rowFailures g.registry [] (rowsOf reading.instructions))
    (all = [] → ∃ made, (g.assemble reading).2 = .ok made) ∧
      (all ≠ [] → (g.assemble reading).2 = .error (.failure (.generation all))) := by
  intro all
  rcases holds_fresh g.registry (some g.reference) reading.instructions
    (fun rows hrows => Option.some.inj hrows ▸ hlen) hread with
    ⟨start, b, log, hfresh, hrun, hreg, hslots, hfail, h⟩
  rcases seed_of_fresh g.registry g.reference start hfresh with ⟨count, hseed⟩
  have hall : reading.failures ++ b.failures = all := by
    rw [h.failures, hreg, hfail]
    rfl
  rw [assemble_eq_finish g reading start b count log hseed hrun]
  unfold finish
  simp only [hall]
  constructor
  · intro hnil
    have hrender := canRender_of_holds g.registry g.reference start b _ hcodes hwritable hread hreg
      hslots h
    rcases Rendering.dispatch_ok g.registry (Table.ofList b.entries) (fun e he =>
      hrender e ((Table.perm_ofList b.entries).mem_iff.mp he)) with ⟨dispatch, hdispatch⟩
    rw [hnil, hdispatch]
    exact ⟨_, rfl⟩
  · intro hne
    rw [if_neg (by simpa only [List.isEmpty_iff] using hne)]

/-- What settings and a registry make of a run. -/
theorem ofSettings_eq_ok_iff (d : Disk) (settings : Settings) (registry : Registry)
    (reference : Option (List ReferenceRow)) (g : Generator) :
    ofSettings d settings registry reference = .ok g ↔
      g.settings = settings ∧ registry.withOverrides settings.modes = .ok g.registry ∧
        chooseReference d settings reference = .ok g.reference := by
  unfold ofSettings
  cases hr : registry.withOverrides settings.modes with
  | error f => simp only [reduceCtorEq, false_and, and_false]
  | ok r =>
      cases hc : chooseReference d settings reference with
      | error f => simp only [Except.map, reduceCtorEq, and_false]
      | ok rows =>
          rcases g with ⟨settings', r', rows'⟩
          simp only [Except.map, Except.ok.injEq, mk.injEq, eq_comm]

/-- The registry of a run is that of the processor with some flags set. -/
theorem ofSettings_eq_ok (d : Disk) (settings : Settings) (registry : Registry)
    (reference : Option (List ReferenceRow)) (g : Generator)
    (h : ofSettings d settings registry reference = .ok g) :
    g.settings = settings ∧ registry.withOverrides settings.modes = .ok g.registry := by
  rcases (ofSettings_eq_ok_iff d settings registry reference g).mp h with ⟨hsettings, hr, -⟩
  exact ⟨hsettings, hr⟩

/-- What a run makes is made of the documents that are listed. -/
theorem generate_of_documents (g : Generator) (d : Disk) (lib : Library) (ids : List String)
    (reading : Reading) (h : documents d g.settings.specDirectory = .ok (lib, ids))
    (hread : readDocuments g.settings.headings lib d ids = (reading, .ok ())) :
    (g.generate d).2 = (g.assemble reading).2 := by
  unfold generate
  simp only [h, hread]

/-- A run ends at a document that ends the reading. -/
theorem generate_of_stop (g : Generator) (d : Disk) (lib : Library) (ids : List String)
    (x : Defect) (h : documents d g.settings.specDirectory = .ok (lib, ids))
    (hread : (readDocuments g.settings.headings lib d ids).2 = .error x) :
    (g.generate d).2 = .error (.defect x) := by
  unfold generate
  rcases hboth : readDocuments g.settings.headings lib d ids with ⟨reading, result⟩
  rw [hboth] at hread
  simp only [h, hboth, show result = .error x from hread]

theorem documents_text (d : Disk) (directory : String) (ids : List String)
    (h : (Library.mk directory).identifiers d = .ok ids) :
    documents d (.text directory) = .ok (⟨directory⟩, ids) := by
  unfold documents
  simp only [h]

/-- A document whose fault cannot be reported is at fault. -/
theorem not_faultless_of_unnameable (g : Generator) (lib : Library) (d : Disk) (ids : List String)
    (hids : lib.identifiers d = .ok ids)
    (h : ∃ id ∈ ids, Unnameable g.settings.headings lib d id) : ¬g.Faultless lib d ids := by
  rcases h with ⟨id, hid, -, bytes, cs, hread, hdecode, hno⟩
  intro hf
  exact hno (hf.implementation id bytes cs ((lib.mem_identifiers_iff d ids hids id).mp hid) hread
    hdecode)

theorem generate_of_unnameable (g : Generator) (d : Disk) (lib : Library) (ids : List String)
    (hdocuments : documents d g.settings.specDirectory = .ok (lib, ids))
    (h : ∃ id ∈ ids, Unnameable g.settings.headings lib d id) :
    (g.generate d).2 = .error (.defect .numberTooLong) :=
  g.generate_of_stop d lib ids _ hdocuments (readDocuments_stops g.settings.headings lib d ids h)

theorem generate_of_nameable (g : Generator) (d : Disk) (lib : Library) (ids : List String)
    (hdocuments : documents d g.settings.specDirectory = .ok (lib, ids))
    (hcodes : ∀ label c, g.registry.enabledLabel? label = some c →
      g.registry.byCode? c.code = some c)
    (hlen : g.reference.length = opcodeSpace)
    (hwritable : ∀ r ∈ g.reference, r.cycles.isWritable = true)
    (hread : ∀ x ∈ rowsOf (specified g.settings.headings lib d ids), x.2.HasReadableCycles)
    (h : ∀ id ∈ ids, ¬Unnameable g.settings.headings lib d id) :
    (g.failures lib d ids = [] → ∃ made, (g.generate d).2 = .ok made) ∧
      (g.failures lib d ids ≠ [] →
        (g.generate d).2 = .error (.failure (.generation (g.failures lib d ids)))) := by
  rcases readDocuments_eq g.settings.headings lib d ids h with ⟨log, hreading⟩
  rw [g.generate_of_documents d lib ids _ hdocuments hreading]
  exact assemble_eq g ⟨specified g.settings.headings lib d ids,
    documentFailures g.settings.headings lib d ids, log⟩ hcodes hlen hwritable hread

/-- A run makes its outputs exactly if nothing is wrong. Otherwise it reports all that is wrong, in
    order, and changes nothing on the disk. There is no report if it would name a heading without
    a text. -/
theorem generate_iff_faultless (g : Generator) (d₀ d : Disk) (settings : Settings)
    (reference : Option (List ReferenceRow)) (directory : String) (ids : List String)
    (hg : ofSettings d₀ settings Registry.default reference = .ok g)
    (hdirectory : settings.specDirectory = .text directory)
    (hids : (Library.mk directory).identifiers d = .ok ids)
    (hlen : g.reference.length = opcodeSpace)
    (hwritable : ∀ r ∈ g.reference, r.cycles.isWritable = true)
    (hread : ∀ x ∈ rowsOf (specified settings.headings ⟨directory⟩ d ids),
      x.2.HasReadableCycles) :
    ((∃ made, (g.generate d).2 = .ok made) ↔ g.Faultless ⟨directory⟩ d ids) ∧
      (¬g.Faultless ⟨directory⟩ d ids →
        ((∀ id ∈ ids, ¬Unnameable settings.headings ⟨directory⟩ d id) →
          (g.generate d).2 = .error (.failure (.generation (g.failures ⟨directory⟩ d ids)))) ∧
        ((∃ id ∈ ids, Unnameable settings.headings ⟨directory⟩ d id) →
          (g.generate d).2 = .error (.defect .numberTooLong)) ∧
        (g.run d).disk = d) := by
  rcases ofSettings_eq_ok d₀ settings _ reference g hg with ⟨rfl, hregistry⟩
  have hdocuments : documents d g.settings.specDirectory = .ok (⟨directory⟩, ids) :=
    hdirectory ▸ documents_text d directory ids hids
  -- A report that cannot be written ends the run before the reference and the rows are looked at.
  by_cases hstops : ∃ id ∈ ids, Unnameable g.settings.headings ⟨directory⟩ d id
  · have hstop := g.generate_of_unnameable d ⟨directory⟩ ids hdocuments hstops
    have hnot := g.not_faultless_of_unnameable ⟨directory⟩ d ids hids hstops
    refine ⟨iff_of_false ?_ hnot, fun _ => ⟨fun hnone => ?_, fun _ => hstop, ?_⟩⟩
    · rintro ⟨made, hmade⟩
      rw [hstop] at hmade
      exact absurd hmade (by simp only [reduceCtorEq, not_false_eq_true])
    · rcases hstops with ⟨id, hid, hunnameable⟩
      exact absurd hunnameable (hnone id hid)
    · exact run_disk_of_error g d (g.generate d).1 _ (Prod.ext rfl hstop)
  · rcases g.generate_of_nameable d ⟨directory⟩ ids hdocuments
      (Registry.byCode?_of_overrides g.settings.modes g.registry hregistry) hlen hwritable hread
      (fun id hid hunnameable => hstops ⟨id, hid, hunnameable⟩) with ⟨hmade, hreport⟩
    rw [← failures_eq_nil_iff g ⟨directory⟩ d ids hids]
    refine ⟨⟨fun ⟨made, hok⟩ => ?_, hmade⟩,
      fun hne => ⟨fun _ => hreport hne, fun h => absurd h hstops, ?_⟩⟩
    · by_contra hne
      rw [hreport hne] at hok
      exact absurd hok (by simp only [reduceCtorEq, not_false_eq_true])
    · exact run_disk_of_error g d (g.generate d).1 _ (Prod.ext rfl (hreport hne))

/-- Two documents, of which one is no text and the other has no implementation. -/
def brokenDisk : Disk :=
  ⟨["w"], [(["w"], .directory), (["w", "docs"], .directory),
    (["w", "docs", "A.md"], .file [255]), (["w", "docs", "B.md"], .file [120])]⟩

/-- A reference whose first default has a mode that is disabled. -/
def brokenReference : List ReferenceRow :=
  ⟨"rel", "nop", .count 2⟩ :: List.replicate 255 ⟨"imp", "NOP", .count 2⟩

theorem identifiers_brokenDisk : (Library.mk "docs").identifiers brokenDisk = .ok ["A", "B"] := by
  have hnames : brokenDisk.names "docs" = .ok ["A.md", "B.md"] := rfl
  have hfilter : ["A.md", "B.md"].filter ((Library.mk "docs").isDocument brokenDisk)
      = ["A.md", "B.md"] := rfl
  have hfiles : (Library.mk "docs").fileNames brokenDisk = ["A.md", "B.md"] := by
    unfold Library.fileNames
    simp only [hnames, hfilter]
    exact List.mergeSort_of_pairwise (by decide)
  unfold Library.identifiers
  rw [hfiles]
  rfl

theorem documentBlocks_x : documentBlocks ['x'] = [.text .paragraph "x"] := by
  have htokens : Markdown.tokens (Markdown.parse "x".toList)
      = [.opening .paragraph 0, .leaf .inline ['x'] 1, .closing .paragraph 0] := rfl
  unfold documentBlocks readBlocks
  rw [show (String.ofList (Text.unixLines ['x'])).toList = "x".toList from rfl, htokens]
  simp [blocksOf, splitAtClose, Markdown.Token.level, blockOf, firstContent]

set_option maxRecDepth 4000 in
/-- Three faults, of two documents and of the reference, and nothing is written. -/
theorem generate_iff_faultless_brokenDisk :
    let settings : Settings := { Settings.default with specDirectory := .text "docs" }
    ∃ g, ofSettings brokenDisk settings Registry.default (some brokenReference) = .ok g ∧
      (g.generate brokenDisk).2 = .error (.failure (.generation [
        .specRead "A" "docs/A.md" (.notText ⟨.invalidStart, 0⟩),
        .structural "B" (.text "Implementation") .missing,
        .unsupportedMode defaultSource "rel" "00"])) ∧
      (g.run brokenDisk).disk = brokenDisk := by
  intro settings
  have hA : documentFailure? settings.headings ⟨"docs"⟩ brokenDisk "A"
      = some (.specRead "A" "docs/A.md" (.notText ⟨.invalidStart, 0⟩)) := rfl
  have hB : documentFailure? settings.headings ⟨"docs"⟩ brokenDisk "B"
      = some (.structural "B" (.text "Implementation") .missing) := by
    unfold documentFailure?
    simp only [show brokenDisk.read ((Library.mk "docs").path "B") = .ok [120] from rfl,
      show Text.decode [120] = .ok ['x'] from rfl, documentBlocks_x]
    rfl
  have hspecified : specified settings.headings ⟨"docs"⟩ brokenDisk ["A", "B"] = [] := by
    unfold specified
    rw [List.filterMap_cons_none (specified?_eq_none _ _ _ _ _ hA),
      List.filterMap_cons_none (specified?_eq_none _ _ _ _ _ hB), List.filterMap_nil]
  have hg : ofSettings brokenDisk settings Registry.default (some brokenReference)
      = .ok ⟨settings, Registry.ofList defaultCapabilities, brokenReference⟩ := rfl
  have hfailures : failures ⟨settings, Registry.ofList defaultCapabilities, brokenReference⟩
      ⟨"docs"⟩ brokenDisk ["A", "B"] = [
        .specRead "A" "docs/A.md" (.notText ⟨.invalidStart, 0⟩),
        .structural "B" (.text "Implementation") .missing,
        .unsupportedMode defaultSource "rel" "00"] := by
    unfold failures documentFailures
    rw [List.filterMap_cons_some hA, List.filterMap_cons_some hB, List.filterMap_nil, hspecified]
    rfl
  have hwritable : ∀ r ∈ brokenReference, r.cycles.isWritable = true := by
    have htwo : (Cycles.count 2).isWritable = true := by decide +kernel
    intro r hr
    rcases List.mem_cons.mp hr with rfl | hr
    · exact htwo
    · rw [List.eq_of_mem_replicate hr]
      exact htwo
  have hnot : ¬Faultless ⟨settings, Registry.ofList defaultCapabilities, brokenReference⟩
      ⟨"docs"⟩ brokenDisk ["A", "B"] := by
    rw [← failures_eq_nil_iff _ _ _ _ identifiers_brokenDisk, hfailures]
    exact List.cons_ne_nil _ _
  have hrun := generate_iff_faultless _ brokenDisk brokenDisk settings (some brokenReference)
    "docs" ["A", "B"] hg rfl identifiers_brokenDisk rfl hwritable (by
      rw [hspecified]
      exact fun x hx => absurd hx List.not_mem_nil)
  rw [hfailures] at hrun
  rcases hrun.2 hnot with ⟨hreport, -, hdisk⟩
  exact ⟨_, hg, hreport fun id _ hunnameable => absurd hunnameable.1 (by decide), hdisk⟩

end Generator

end OpcodeForge
