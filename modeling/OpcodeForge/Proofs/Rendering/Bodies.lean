import Mathlib.Data.List.Nodup
import OpcodeForge.Rendering.Bodies

/-!
# Names of Bodies

The first output is a list of definitions, one after the other, and nothing in it keeps two
of them from having one name. The names are those of the instructions and then those of the
placeholders, so that a name is defined once as long as no two instructions share it, no
placeholder comes twice, and no placeholder has the name of an instruction
(`nodup_definedNames_iff`).

Where a name is defined more than once, what calls it gets the last body (`calledBody?`).

## Main definitions

* `Rendering.definedNames`: The names of all bodies, in order.
* `Rendering.Defines`: A text that has the definition of a body in it.
* `Rendering.calledBody?`: The body that is called by a name.

## Theorems

* `mem_namedBodies_iff`: What the bodies are.
* `defines_of_mem`: The output has all of its definitions in it.
* `nodup_definedNames_iff`: When no name is defined twice.
* `calledBody?_of_instruction`: A name of instructions calls the body of the last of them.
-/

namespace OpcodeForge.Rendering

open Specification (Instruction)

/-- The names of all bodies, in the order of the output. -/
def definedNames (instructions : List Instruction) (placeholders : List String) :
    List String :=
  (namedBodies instructions placeholders).map (·.1)

/-- A text that has the definition of a body in it. -/
def Defines (text name code : String) : Prop :=
  ∃ before after, text = before ++ body name code ++ after

/-- The body that is called by a name. A later definition hides the earlier ones. -/
def calledBody? (instructions : List Instruction) (placeholders : List String)
    (name : String) : Option String :=
  ((namedBodies instructions placeholders).reverse.find? (·.1 == name)).map (·.2)

theorem mem_namedBodies_iff (instructions : List Instruction) (placeholders : List String)
    (name code : String) : (name, code) ∈ namedBodies instructions placeholders ↔
      (∃ i ∈ instructions, i.macroName = name ∧ i.implementation = code) ∨
        name ∈ placeholders ∧ code = "" := by
  unfold namedBodies
  simp only [List.mem_append, List.mem_map, Prod.mk.injEq]
  constructor
  · rintro (hi | ⟨s, hs, rfl, rfl⟩)
    · exact Or.inl hi
    · exact Or.inr ⟨hs, rfl⟩
  · rintro (hi | ⟨hname, rfl⟩)
    · exact Or.inl hi
    · exact Or.inr ⟨name, hname, rfl, rfl⟩

/-- Each definition stands in the output as it is. -/
theorem defines_of_mem (instructions : List Instruction) (placeholders : List String)
    (name code : String) (h : (name, code) ∈ namedBodies instructions placeholders) :
    Defines (bodies instructions placeholders) name code := by
  rcases List.append_of_mem h with ⟨before, after, hsplit⟩
  refine ⟨String.join (before.map fun b => body b.1 b.2),
    String.join (after.map fun b => body b.1 b.2), ?_⟩
  unfold bodies
  rw [hsplit, List.map_append, String.join_append, List.map_cons, String.join_cons,
    String.append_assoc]

theorem definedNames_eq (instructions : List Instruction) (placeholders : List String) :
    definedNames instructions placeholders
      = instructions.map (·.macroName) ++ placeholders := by
  unfold definedNames namedBodies
  rw [List.map_append, List.map_map, List.map_map]
  exact congrArg _ (List.map_id placeholders)

/-- No name is defined twice if the instructions have names of their own, and the
    placeholders too. -/
theorem nodup_definedNames_iff (instructions : List Instruction) (placeholders : List String) :
    (definedNames instructions placeholders).Nodup ↔
      (instructions.map (·.macroName)).Nodup ∧ placeholders.Nodup ∧
        ∀ i ∈ instructions, i.macroName ∉ placeholders := by
  rw [definedNames_eq, List.nodup_append]
  constructor
  · rintro ⟨hinstructions, hplaceholders, happart⟩
    exact ⟨hinstructions, hplaceholders, fun i hi hmem =>
      happart _ (List.mem_map_of_mem hi) _ hmem rfl⟩
  · rintro ⟨hinstructions, hplaceholders, happart⟩
    refine ⟨hinstructions, hplaceholders, fun name hname other hother heq => ?_⟩
    rcases List.mem_map.mp hname with ⟨i, hi, rfl⟩
    exact happart i hi (heq ▸ hother)

/-- A name that an instruction has and no placeholder calls the body of the last instruction
    that has it. -/
theorem calledBody?_of_instruction (instructions : List Instruction)
    (placeholders : List String) (name : String)
    (hinstruction : ∃ i ∈ instructions, i.macroName = name) (hplaceholder : name ∉ placeholders) :
    ∃ before j after, instructions = before ++ j :: after ∧ j.macroName = name ∧
      (∀ x ∈ after, x.macroName ≠ name) ∧
      calledBody? instructions placeholders name = some j.implementation := by
  have hsome : (instructions.reverse.find? (·.macroName == name)).isSome = true := by
    rcases hinstruction with ⟨i, hi, hname⟩
    rw [List.find?_isSome]
    exact ⟨i, List.mem_reverse.mpr hi, beq_iff_eq.mpr hname⟩
  rcases Option.isSome_iff_exists.mp hsome with ⟨j, hj⟩
  rcases List.find?_eq_some_iff_append.mp hj with ⟨hname, after, before, hsplit, hafter⟩
  refine ⟨before.reverse, j, after.reverse, ?_, eq_of_beq hname, fun x hx => ?_, ?_⟩
  · rw [← List.reverse_reverse instructions, hsplit, List.reverse_append, List.reverse_cons,
      List.append_assoc]
    rfl
  · have hother := hafter x (List.mem_reverse.mp hx)
    simpa only [Bool.not_eq_true', beq_eq_false_iff_ne] using hother
  · have hnone : (placeholders.map fun s => (s, "")).reverse.find? (·.1 == name) = none := by
      rw [List.find?_eq_none]
      intro b hb
      rcases List.mem_map.mp (List.mem_reverse.mp hb) with ⟨s, hs, rfl⟩
      exact fun hbeq => hplaceholder (eq_of_beq hbeq ▸ hs)
    unfold calledBody? namedBodies
    rw [List.reverse_append, List.find?_append, hnone, Option.none_or, ← List.map_reverse,
      List.find?_map]
    change (Option.map _ (instructions.reverse.find? (·.macroName == name))).map _ = _
    rw [hj]
    rfl

end OpcodeForge.Rendering
