import OpcodeForge.Proofs.Generation
import OpcodeForge.Proofs.Opcode.Placeholders
import OpcodeForge.Proofs.Rendering.Bodies

/-!
# Closed Outputs

The two outputs of a run are rendered by different steps, and the second one calls what the
first one defines. An arm calls the lower case name of its instruction. If a row declares the
byte then the instruction is one of the run and has a body, and if the arm is that of a
default then a body of that name is there already or an empty one is asked for. So nothing is
called that is not defined, whatever the registry, the reference and the documents are.

The empty bodies are no more than that. There is one for each name of a default that still
stands and that no instruction has in any case of its letters, and for nothing else.

## Theorems

* `macroName_of_declaredAs`: A declared entry calls the body of an instruction.
* `mem_placeholders_rendered_iff`: Which names get an empty body.
* `generate_closed`: What a run calls is defined, and the placeholders are those that it needs.
-/

namespace OpcodeForge

open Addressing (Registry)
open Opcode
open Specification

namespace Generator

theorem macroName_of_declaredAs (registry : Registry) (is : List Instruction)
    (k : Fin opcodeSpace) (e : Entry) (h : DeclaredAs registry is k e) :
    ∃ i ∈ is, i.macroName = Text.lower e.instruction := by
  rcases h with ⟨i, hi, rows, _, r, _, hdec, _⟩
  refine ⟨i, hi, ?_⟩
  rw [instruction_of_declares registry i r e hdec]
  rfl

/-- The names of the instructions count in lower case, and so do those of the defaults. -/
theorem mem_placeholders_rendered_iff (t : Table) (is : List Instruction) (name : String) :
    name ∈ t.placeholders (is.map (·.identifier)) ↔
      (∃ e ∈ t.entries, e.isDefault = true ∧ Text.lower e.instruction = name) ∧
        ∀ i ∈ is, i.macroName ≠ name := by
  rw [Table.mem_placeholders_iff, List.forall_mem_map]
  rfl

/-- What a run calls is defined. Each arm of the dispatch is that of an entry and calls the
    lower case name of its instruction, and the bodies have a definition of that name, which
    is that of an instruction or an empty one. Empty bodies are there for the names of the
    defaults that still stand and that no instruction has, for each once. -/
theorem generate_closed (g : Generator) (d : Disk) (made : Generation)
    (h : (g.generate d).2 = .ok made) :
    ∃ placeholders,
      made.bodies = Rendering.bodies made.instructions placeholders ∧
      made.dispatch = Rendering.dispatchHead
        ++ "\n".intercalate (made.table.entries.map Rendering.armOf)
        ++ Rendering.dispatchTail ∧
      (∀ e ∈ made.table.entries,
        (∃ code, Rendering.Defines made.bodies (Text.lower e.instruction) code) ∧
        ((∃ i ∈ made.instructions, i.macroName = Text.lower e.instruction) ∨
          Text.lower e.instruction ∈ placeholders)) ∧
      (∀ e, e ∈ made.table.entries ∧ e.isDefault = true ↔
        ∃ k r, Standing g.registry made.instructions g.reference k r ∧
          Entry.ofReference k r = e) ∧
      (∀ name, name ∈ placeholders ↔
        (∃ e ∈ made.table.entries, e.isDefault = true ∧ Text.lower e.instruction = name) ∧
          ∀ i ∈ made.instructions, i.macroName ≠ name) ∧
      placeholders.Nodup := by
  rcases (generate_eq_ok_iff g d made).mp h with ⟨reading, b, hv, _, rfl⟩
  have hmem := mem_placeholders_rendered_iff ⟨b.entries⟩ reading.instructions
  have hbody : ∀ e ∈ b.entries,
      (∃ i ∈ reading.instructions, i.macroName = Text.lower e.instruction) ∨
        Text.lower e.instruction ∈
          Table.placeholders ⟨b.entries⟩ (reading.instructions.map (·.identifier)) := by
    intro e he
    by_cases hnamed : ∃ i ∈ reading.instructions, i.macroName = Text.lower e.instruction
    · exact Or.inl hnamed
    · -- No instruction has the name, so no row can have declared the entry.
      have hdefault : e.isDefault = true := by
        by_contra hdeclared
        rcases (hv.mem_declared_iff e).mp ⟨he, Bool.eq_false_iff.mpr hdeclared⟩ with ⟨k, hdec⟩
        exact hnamed (macroName_of_declaredAs _ _ k e hdec)
      exact Or.inr ((hmem _).mpr ⟨⟨e, he, hdefault, rfl⟩, fun i hi hname => hnamed ⟨i, hi, hname⟩⟩)
  refine ⟨Table.placeholders ⟨b.entries⟩ (reading.instructions.map Instruction.identifier), rfl,
    rfl, fun e he => ⟨?_, hbody e he⟩, hv.mem_default_iff, hmem, Table.nodup_placeholders _ _⟩
  rcases hbody e he with ⟨i, hi, hname⟩ | hplaceholder
  · exact ⟨i.implementation, Rendering.defines_of_mem _ _ _ _
      ((Rendering.mem_namedBodies_iff _ _ _ _).mpr (Or.inl ⟨i, hi, hname, rfl⟩))⟩
  · exact ⟨"", Rendering.defines_of_mem _ _ _ _
      ((Rendering.mem_namedBodies_iff _ _ _ _).mpr (Or.inr ⟨hplaceholder, rfl⟩))⟩

/-- A document that declares one byte and a reference with one placeholder. All that is
    called is defined, and the name of the placeholder is the only one without a document. -/
theorem generate_closed_loadRun :
    ∃ made, ((loadRun 2).generate loadDisk).2 = .ok made ∧
      made.bodies = Rendering.bodies [loadInstruction] ["nop"] ∧
      ∀ e ∈ made.table.entries,
        ∃ code, Rendering.Defines made.bodies (Text.lower e.instruction) code := by
  rcases generate_loadRun with ⟨b, hv, hmade⟩
  rcases generate_closed (loadRun 2) loadDisk _ hmade with
    ⟨placeholders, hbodies, _, hcalls, hdefaults, hnames, hnodup⟩
  refine ⟨_, hmade, ?_, fun e he => (hcalls e he).1⟩
  have hname : ∀ name, name ∈ placeholders ↔ name ∈ ["nop"] := by
    intro name
    rw [hnames, List.mem_singleton]
    constructor
    · rintro ⟨⟨e, he, hdefault, rfl⟩, _⟩
      rcases (hdefaults e).mp ⟨he, hdefault⟩ with ⟨k, r, hstanding, rfl⟩
      rw [← ((standing_loadRun 2 k r).mp hstanding).2]
      change Text.lower "NOP" = "nop"
      rfl
    · rintro rfl
      have hstanding := (standing_loadRun 2 ⟨0, by decide⟩ _).mpr ⟨rfl, rfl⟩
      rcases (hdefaults _).mpr ⟨_, _, hstanding, rfl⟩ with ⟨he, hdefault⟩
      refine ⟨⟨_, he, hdefault, rfl⟩, fun i hi => ?_⟩
      rw [List.mem_singleton.mp hi]
      decide
  have hperm := (List.perm_ext_iff_of_nodup hnodup (by decide)).mpr hname
  rw [hbodies, List.perm_singleton.mp hperm]
  rfl

end Generator

end OpcodeForge
