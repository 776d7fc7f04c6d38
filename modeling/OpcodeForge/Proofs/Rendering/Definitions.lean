import OpcodeForge.Proofs.Rendering.Bodies
import OpcodeForge.Proofs.Text.Marks

/-!
# Reading the Bodies Back

The first output is one definition after the other, and the code of each is copied as it is. So
code may hold braces, empty lines and whatever ends a definition, and the ends of the definitions
cannot be told by them. What tells them is the attribute at the start of each: as long as no name
and no code has its text, the output can be cut before each of them (`toList_bodies`), and in what
is left of a definition the name is on a line of its own and the code is all that is between two
fixed texts (`bodyRest_inj`).

## Main definitions

* `Rendering.bodyMark`: The attribute of a definition.
* `Rendering.bodyRest`: A definition without it.
* `Rendering.IsPlainBody`: A name and code that can be told from the texts around them.

## Theorems

* `toList_bodies`: The output is made of definitions behind marks.
* `not_infix_bodyRest`: There is no other mark in a definition.
* `bodyRest_inj`: A definition tells its name and its code.
* `bodies_inj_iff`: The output tells the names and the code of all bodies, in order.
-/

namespace OpcodeForge.Rendering

open Specification (Instruction)

/-- The attribute of a definition. -/
def bodyMark : List Char :=
  "#[allow(unused_macros)]".toList

/-- The definition of a body without its attribute. -/
def bodyRest (name code : String) : List Char :=
  "\nmacro_rules! ".toList ++ (name.toList
    ++ (" \x7b\n  ($self:expr, $memory:expr) => \x7b\n    ".toList
      ++ (code.toList ++ "\n  \x7d\n\x7d\n\n".toList)))

/-- A name on one line, and neither in the name nor in the code the attribute of a definition. -/
structure IsPlainBody (name code : String) : Prop where
  line : '\n' ∉ name.toList
  name : ¬bodyMark <:+: name.toList
  code : ¬bodyMark <:+: code.toList

instance (name code : String) : Decidable (IsPlainBody name code) :=
  decidable_of_iff ('\n' ∉ name.toList ∧ ¬bodyMark <:+: name.toList ∧ ¬bodyMark <:+: code.toList)
    ⟨fun ⟨hline, hname, hcode⟩ => ⟨hline, hname, hcode⟩, fun h => ⟨h.line, h.name, h.code⟩⟩

theorem toList_body (name code : String) :
    (body name code).toList = bodyMark ++ bodyRest name code := by
  have hattribute : "#[allow(unused_macros)]\nmacro_rules! "
      = "#[allow(unused_macros)]" ++ "\nmacro_rules! " := by decide
  have hopen : " \x7b\n  ($self:expr, $memory:expr) => \x7b\n    "
      = " \x7b\n" ++ "  ($self:expr, $memory:expr) => \x7b\n    " := by decide
  unfold body bodyRest bodyMark
  rw [hattribute, hopen]
  simp only [String.toList_append, List.append_assoc]

/-- The output is made of definitions behind marks. -/
theorem toList_bodies (instructions : List Instruction) (placeholders : List String) :
    (bodies instructions placeholders).toList = Text.marked bodyMark
      ((namedBodies instructions placeholders).map fun b => bodyRest b.1 b.2) := by
  unfold bodies Text.marked
  simp only [String.toList_join, List.flatMap_map, toList_body]

/-- There is no other mark in the definition of a plain body. -/
theorem not_infix_bodyRest (name code : String) (h : IsPlainBody name code) :
    ¬bodyMark <:+: bodyRest name code := by
  have hkeyword : Text.Seals bodyMark "\nmacro_rules! ".toList := by decide
  have hopen : Text.Seals bodyMark
    " \x7b\n  ($self:expr, $memory:expr) => \x7b\n    ".toList := by decide
  have hclose : Text.Seals bodyMark "\n  \x7d\n\x7d\n\n".toList := by decide
  exact hkeyword.before (hopen.between h.name (hclose.after h.code))

/-- A definition tells its name and its code: the name ends with its line, and all that follows
    but two fixed texts is the code. -/
theorem bodyRest_inj (name code name' code' : String) (hline : '\n' ∉ name.toList)
    (hline' : '\n' ∉ name'.toList) (h : bodyRest name code = bodyRest name' code') :
    name = name' ∧ code = code' := by
  have hopen : " \x7b\n  ($self:expr, $memory:expr) => \x7b\n    ".toList
      = [' ', '\x7b'] ++ '\n' :: "  ($self:expr, $memory:expr) => \x7b\n    ".toList := by decide
  have hlines : ∀ name code : String, bodyRest name code = "\nmacro_rules! ".toList
      ++ ((name.toList ++ [' ', '\x7b']) ++ '\n' ::
        ("  ($self:expr, $memory:expr) => \x7b\n    ".toList
          ++ (code.toList ++ "\n  \x7d\n\x7d\n\n".toList))) := by
    intro name code
    unfold bodyRest
    simp only [hopen, List.append_assoc, List.cons_append, List.nil_append]
  rw [hlines, hlines] at h
  rcases Text.append_cons_inj '\n' _ _ _ _ (by simpa using hline) (by simpa using hline')
    (List.append_cancel_left h) with ⟨hname, hcode⟩
  exact ⟨String.toList_inj.mp (List.append_cancel_right hname),
    String.toList_inj.mp (List.append_cancel_right (List.append_cancel_left hcode))⟩

theorem map_bodyRest_inj (bs : List (String × String)) :
    ∀ bs' : List (String × String), (∀ b ∈ bs, IsPlainBody b.1 b.2) →
      (∀ b ∈ bs', IsPlainBody b.1 b.2) →
      bs.map (fun b => bodyRest b.1 b.2) = bs'.map (fun b => bodyRest b.1 b.2) → bs = bs' := by
  induction bs with
  | nil =>
      intro bs' _ _ h
      exact (List.map_eq_nil_iff.mp h.symm).symm
  | cons b rest ih =>
      intro bs' hplain hplain' h
      cases bs' with
      | nil => exact absurd h (by simp only [List.map_cons, List.map_nil, reduceCtorEq,
          not_false_eq_true])
      | cons b' rest' =>
          rw [List.map_cons, List.map_cons, List.cons.injEq] at h
          rw [List.forall_mem_cons] at hplain hplain'
          rcases bodyRest_inj _ _ _ _ hplain.1.line hplain'.1.line h.1 with ⟨hname, hcode⟩
          rw [Prod.ext hname hcode, ih rest' hplain.2 hplain'.2 h.2]

theorem forall_mem_namedBodies_iff (is : List Instruction) (ps : List String)
    (P : String → String → Prop) :
    (∀ b ∈ namedBodies is ps, P b.1 b.2) ↔
      (∀ i ∈ is, P i.macroName i.implementation) ∧ ∀ p ∈ ps, P p "" := by
  unfold namedBodies
  rw [List.forall_mem_append, List.forall_mem_map, List.forall_mem_map]

/-- The output tells the names and the code of all bodies. Two lists of instructions with
    placeholders have the same output exactly if the bodies of the instructions, in their order
    and with their code as it is, followed by the empty bodies of the placeholders, are the
    same. -/
theorem bodies_inj_iff (is js : List Instruction) (ps qs : List String)
    (his : ∀ i ∈ is, IsPlainBody i.macroName i.implementation)
    (hps : ∀ p ∈ ps, IsPlainBody p "")
    (hjs : ∀ j ∈ js, IsPlainBody j.macroName j.implementation)
    (hqs : ∀ q ∈ qs, IsPlainBody q "") :
    bodies is ps = bodies js qs ↔
      is.map (fun i => (i.macroName, i.implementation)) ++ ps.map (fun p => (p, ""))
        = js.map (fun j => (j.macroName, j.implementation)) ++ qs.map (fun q => (q, "")) := by
  have hplain := (forall_mem_namedBodies_iff is ps IsPlainBody).mpr ⟨his, hps⟩
  have hplain' := (forall_mem_namedBodies_iff js qs IsPlainBody).mpr ⟨hjs, hqs⟩
  change _ ↔ namedBodies is ps = namedBodies js qs
  constructor
  · intro h
    have hmarked := congrArg String.toList h
    rw [toList_bodies, toList_bodies] at hmarked
    have hfree : ∀ bs : List (String × String), (∀ b ∈ bs, IsPlainBody b.1 b.2) →
        ∀ part ∈ bs.map fun b => bodyRest b.1 b.2, ¬bodyMark <:+: part := by
      intro bs hbs
      exact List.forall_mem_map.mpr fun b hb => not_infix_bodyRest b.1 b.2 (hbs b hb)
    -- Nothing stands before the first definition.
    have hparts := (Text.append_marked_inj bodyMark (by decide) _ [] [] _ (by decide) (by decide)
      (hfree _ hplain) (hfree _ hplain') hmarked).2
    exact map_bodyRest_inj _ _ hplain hplain' hparts
  · intro h
    unfold bodies
    rw [h]

/-- Code that ends its definition and begins another one, and the same code as two bodies. -/
theorem bodies_inj_iff_twoInOne :
    let one : List Instruction := [⟨"LDA", "a;\n  \x7d\n\x7d\n\nmacro_rules! ldx \x7b\n"
      ++ "  ($self:expr, $memory:expr) => \x7b\n    x;", none, ""⟩]
    let two : List Instruction := [⟨"LDA", "a;", none, ""⟩, ⟨"LDX", "x;", none, ""⟩]
    (∀ i ∈ one, IsPlainBody i.macroName i.implementation) ∧
      (∀ i ∈ two, IsPlainBody i.macroName i.implementation) ∧ IsPlainBody "nop" "" ∧
      bodies one ["nop"] ≠ bodies two ["nop"] := by
  intro one two
  have hone : ∀ i ∈ one, IsPlainBody i.macroName i.implementation := by decide +kernel
  have htwo : ∀ i ∈ two, IsPlainBody i.macroName i.implementation := by decide +kernel
  have hnop : IsPlainBody "nop" "" := by decide
  refine ⟨hone, htwo, hnop, fun h => ?_⟩
  have hsame := (bodies_inj_iff one two ["nop"] ["nop"] hone
    (List.forall_mem_singleton.mpr hnop) htwo (List.forall_mem_singleton.mpr hnop)).mp h
  exact absurd (congrArg List.length hsame) (by decide)

end OpcodeForge.Rendering
