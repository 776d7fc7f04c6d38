import OpcodeForge.Proofs.Rendering.Closure
import OpcodeForge.Proofs.Specification.Identifiers

/-!
# One Body for One Name

Documents are told apart by the names of their files, and bodies by those names in lower
case. The placeholders respect this: no empty body is asked for where an instruction has the
name in any case. The documents do not. Two of them whose names differ in the case of their
letters only go through a run unnoticed as long as they declare different bytes, and then two
bodies have one name (`generate_defines_once_iff`).

What is called is the later one of them. So the arm of a byte runs the body of the document
that declares the byte, unless a later document has the name too; then it runs the body of the
last one that has.

## Theorems

* `declared_of_not_default`: What is no default was declared by an instruction of the run.
* `nodup_definedNames_rendered_iff`: When no two bodies of a run have one name.
* `generate_defines_once_iff`: When no two bodies have one name, and which one is called.
-/

namespace OpcodeForge

open Addressing (Registry defaultCapabilities)
open Opcode
open Specification

namespace Generator

/-- Some row of an instruction declares the entry. -/
def DeclaredBy (registry : Registry) (i : Instruction) (e : Entry) : Prop :=
  ∃ rows, i.rows = some rows ∧ ∃ r ∈ rows, Declares registry i r e

theorem Validated.declared_of_not_default {g : Generator} {d : Disk} {reading : Reading}
    {b : Builder} (hv : Validated g d reading b) (e : Entry) (he : e ∈ b.entries)
    (hdeclared : e.isDefault = false) :
    ∃ i ∈ reading.instructions, DeclaredBy g.registry i e ∧
      Text.lower e.instruction = i.macroName := by
  rcases (hv.mem_declared_iff e).mp ⟨he, hdeclared⟩ with ⟨k, i, hi, rows, hrows, r, hr, hdec, _⟩
  refine ⟨i, hi, ⟨rows, hrows, r, hr, hdec⟩, ?_⟩
  rw [instruction_of_declares g.registry i r e hdec]
  rfl

/-- Placeholders are no reason for a name to be defined twice. -/
theorem nodup_definedNames_rendered_iff (t : Table) (is : List Instruction)
    (hids : (is.map (·.identifier)).Nodup) :
    (Rendering.definedNames is (t.placeholders (is.map (·.identifier)))).Nodup ↔
      ∀ id ∈ is.map (·.identifier), ∀ other ∈ is.map (·.identifier),
        Text.lower id = Text.lower other → id = other := by
  have hnames : is.map (·.macroName) = (is.map (·.identifier)).map Text.lower := by
    rw [List.map_map]
    rfl
  rw [Rendering.nodup_definedNames_iff, hnames, List.nodup_map_iff_inj_on hids]
  constructor
  · exact fun h => h.1
  · refine fun h => ⟨h, Table.nodup_placeholders t _, fun i hi hplaceholder => ?_⟩
    exact ((mem_placeholders_rendered_iff t is _).mp hplaceholder).2 i hi rfl

/-- The documents of a run have different names, and no two bodies have one name exactly if
    these are different in lower case too. What an arm calls is the body of the last document
    that has the name, and that of the document which declares the byte if no two bodies have
    one name. -/
theorem generate_defines_once_iff (g : Generator) (d : Disk) (made : Generation)
    (h : (g.generate d).2 = .ok made) :
    ∃ lib ids placeholders,
      documents d g.settings.specDirectory = .ok (lib, ids) ∧ ids.Nodup ∧
      made.instructions.map (·.identifier) = ids ∧
      made.bodies = Rendering.bodies made.instructions placeholders ∧
      ((Rendering.definedNames made.instructions placeholders).Nodup ↔
        ∀ id ∈ ids, ∀ other ∈ ids, Text.lower id = Text.lower other → id = other) ∧
      ∀ e ∈ made.table.entries, e.isDefault = false →
        ∃ i ∈ made.instructions, DeclaredBy g.registry i e ∧
          ∃ before j after, made.instructions = before ++ j :: after ∧
            j.macroName = i.macroName ∧ (∀ x ∈ after, x.macroName ≠ i.macroName) ∧
            Rendering.calledBody? made.instructions placeholders (Text.lower e.instruction)
              = some j.implementation ∧
            ((Rendering.definedNames made.instructions placeholders).Nodup → j = i) := by
  rcases (generate_eq_ok_iff g d made).mp h with ⟨reading, b, hv, _, rfl⟩
  rcases hv.documents with ⟨lib, ids, hdocuments, hreading⟩
  have hids := identifiers_of_readDocuments g.settings.headings lib d ids reading hreading
    (List.append_eq_nil_iff.mp hv.failures).1
  have hnodup := nodup_of_documents d _ lib ids hdocuments
  rw [← hids] at hnodup
  have honce := nodup_definedNames_rendered_iff ⟨b.entries⟩ reading.instructions hnodup
  refine ⟨lib, ids, Table.placeholders ⟨b.entries⟩ (reading.instructions.map
    Instruction.identifier), hdocuments, hids ▸ hnodup, hids, rfl, hids ▸ honce, ?_⟩
  intro e he hdeclared
  rcases hv.declared_of_not_default e he hdeclared with ⟨i, hi, hby, hname⟩
  have hplaceholder : i.macroName ∉
      Table.placeholders ⟨b.entries⟩ (reading.instructions.map Instruction.identifier) :=
    fun hmem => ((mem_placeholders_rendered_iff _ _ _).mp hmem).2 i hi rfl
  rcases Rendering.calledBody?_of_instruction reading.instructions _ i.macroName ⟨i, hi, rfl⟩
    hplaceholder with ⟨before, j, after, hsplit, hj, hafter, hcalled⟩
  refine ⟨i, hi, hby, before, j, after, hsplit, hj, hafter, hname ▸ hcalled, fun hunique => ?_⟩
  have hjmem : j ∈ reading.instructions := by
    rw [hsplit]
    exact List.mem_append_right before List.mem_cons_self
  have hsame : j.identifier = i.identifier := honce.mp hunique _ (List.mem_map_of_mem hjmem) _
    (List.mem_map_of_mem hi) hj
  exact List.inj_on_of_nodup_map hnodup hjmem hi hsame

/-- Another document that declares another byte. -/
def zeroPageDraft : Draft :=
  ⟨"lda", ["Mode", "Form", "Opcode", "Bytes", "Cycles"],
    some [["Zero Page", "lda zp", "$A5", "2", "3"]], "b", none⟩

/-- What it declares. -/
def zeroPageInstruction : Instruction :=
  ⟨"lda", "b", some [⟨["Zero Page", "lda zp", "$A5", "2", "3"]⟩], ""⟩

/-- A directory with two documents whose names differ in the case of their letters. -/
def twinDisk : Disk :=
  ⟨["w"], [(["w"], .directory), (["w", "docs"], .directory),
    (["w", "docs", "LDA.md"], .file (Text.encode loadDraft.text)),
    (["w", "docs", "lda.md"], .file (Text.encode zeroPageDraft.text))]⟩

theorem readDocument_twinDisk :
    readDocument Headings.default ⟨"docs"⟩ twinDisk "LDA" = .ok (loadInstruction, []) ∧
      readDocument Headings.default ⟨"docs"⟩ twinDisk "lda" = .ok (zeroPageInstruction, []) :=
  ⟨readDocument_draft _ _ _ _ loadDraft _ (by decide +kernel) rfl rfl,
    readDocument_draft _ _ _ _ zeroPageDraft _ (by decide +kernel) rfl rfl⟩

theorem identifiers_twinDisk :
    (Library.mk "docs").identifiers twinDisk = .ok ["LDA", "lda"] := by
  have hnames : twinDisk.names "docs" = .ok ["LDA.md", "lda.md"] := rfl
  have hfilter : ["LDA.md", "lda.md"].filter ((Library.mk "docs").isDocument twinDisk)
      = ["LDA.md", "lda.md"] := rfl
  have hfiles : (Library.mk "docs").fileNames twinDisk = ["LDA.md", "lda.md"] := by
    unfold Library.fileNames
    simp only [hnames, hfilter]
    exact List.mergeSort_of_pairwise (by decide)
  unfold Library.identifiers
  rw [hfiles]
  rfl

theorem documents_twinDisk :
    documents twinDisk (.text "docs") = .ok (⟨"docs"⟩, ["LDA", "lda"]) := by
  unfold documents
  simp only [identifiers_twinDisk]

theorem rowFailures_twins : rowFailures (Registry.ofList defaultCapabilities) []
    (rowsOf [loadInstruction, zeroPageInstruction]) = [] := rfl

theorem declares_loadEntry : Declares (Registry.ofList defaultCapabilities) loadInstruction
    ⟨["Immediate", "LDA #", "$A9", "2", "2"]⟩ loadEntry :=
  (declaration_eq_ok_iff _ _ _ _).mp rfl

/-- Both documents go through a run, and the byte of the first one has an entry. -/
theorem generate_twinDisk : ∃ made, ((loadRun 2).generate twinDisk).2 = .ok made ∧
    made.instructions = [loadInstruction, zeroPageInstruction] ∧
    loadEntry ∈ made.table.entries := by
  have hreading : readDocuments Headings.default ⟨"docs"⟩ twinDisk ["LDA", "lda"]
      = (⟨[loadInstruction, zeroPageInstruction], [], []⟩, .ok ()) :=
    readDocuments_cons _ _ _ _ _ _ _ _ readDocument_twinDisk.1
      (readDocuments_singleton _ _ _ _ _ _ readDocument_twinDisk.2)
  have hread : ∀ x ∈ rowsOf [loadInstruction, zeroPageInstruction], x.2.HasReadableCycles := by
    decide
  rcases (exists_validated_iff (loadRun 2) twinDisk _).mpr ⟨⟨⟨"docs"⟩, ["LDA", "lda"],
      documents_twinDisk, hreading⟩, rfl, length_onePlaceholder 2, hread,
      referenceFailures_onePlaceholder 2, rowFailures_twins⟩ with ⟨b, hv⟩
  have hr : (loadRun 2).registry.Coherent :=
    Registry.coherent_of_nodup defaultCapabilities (by decide)
  refine ⟨_, hv.generate_eq_of_coherent hr fun k r hstanding => ?_, rfl, ?_⟩
  · rw [← (placeholder_onePlaceholder 2 k r hstanding.row hstanding.placeholder).2]
    decide +kernel
  · exact ((hv.mem_declared_iff loadEntry).mpr ⟨⟨0xA9, by decide⟩, loadInstruction,
      List.mem_cons_self, _, rfl, _, List.mem_cons_self, declares_loadEntry, rfl⟩).1

/-- The arm of the first document runs the body of the second one. -/
theorem generate_defines_once_iff_twinDisk :
    ∃ made placeholders, ((loadRun 2).generate twinDisk).2 = .ok made ∧
      made.bodies = Rendering.bodies [loadInstruction, zeroPageInstruction] placeholders ∧
      ¬(Rendering.definedNames [loadInstruction, zeroPageInstruction] placeholders).Nodup ∧
      loadEntry ∈ made.table.entries ∧
      Rendering.calledBody? [loadInstruction, zeroPageInstruction] placeholders
        (Text.lower loadEntry.instruction) = some zeroPageInstruction.implementation := by
  rcases generate_twinDisk with ⟨made, hmade, hinstructions, hentry⟩
  rcases generate_defines_once_iff (loadRun 2) twinDisk made hmade with
    ⟨lib, ids, placeholders, hdocuments, _, _, hbodies, honce, hcalls⟩
  rw [hinstructions] at hbodies honce hcalls
  have hids : ["LDA", "lda"] = ids :=
    (Prod.mk.inj (Except.ok.inj (documents_twinDisk.symm.trans hdocuments))).2
  rw [← hids] at honce
  refine ⟨made, placeholders, hmade, hbodies, fun hnodup => ?_, hentry, ?_⟩
  · exact absurd (honce.mp hnodup "LDA" (by decide) "lda" (by decide) rfl) (by decide)
  · rcases hcalls loadEntry hentry (by decide) with
      ⟨i, hi, _, before, j, after, hsplit, hj, hafter, hcalled, _⟩
    have hname : ∀ x ∈ [loadInstruction, zeroPageInstruction], x.macroName = "lda" := by
      intro x hx
      rcases List.mem_cons.mp hx with rfl | hx
      · rfl
      · rw [List.mem_singleton.mp hx]
        rfl
    -- Both have the name, so the last one that has it is the second.
    have hlast : j = zeroPageInstruction := by
      rcases after with _ | ⟨x, rest⟩
      · have hend := congrArg List.getLast? hsplit
        rw [List.getLast?_concat] at hend
        exact (Option.some.inj hend).symm
      · have hx : x ∈ before ++ j :: x :: rest :=
          List.mem_append_right before (List.mem_cons_of_mem j List.mem_cons_self)
        rw [← hsplit] at hx
        exact absurd ((hname x hx).trans (hname i hi).symm) (hafter x List.mem_cons_self)
    rw [hcalled, hlast]

end Generator

end OpcodeForge
