import Mathlib.Data.List.Infix

/-!
# Texts Cut at Marks

A text that is put together from parts and a mark between them can be taken apart again if the
mark is found nowhere else. It must not be in a part, and it must not be found across the place
where a part meets the mark. The second cannot happen if no end of the mark is also a start of it
(`Borderless`), whatever the parts are. Then the first mark in the text is the one after the first
part (`append_mark_inj`), and from there the parts follow one by one (`append_marked_inj`).

That a part is free of the mark has to be shown for parts that are made of several texts
themselves. Fixed texts between the others can keep them apart: it is enough that such a text is
free of the mark too, and that its first and its last character are none of the mark (`Seals`).

A single character has no ends of its own, so the same holds of the first separator in a text.

## Main definitions

* `Text.Borderless`: A mark of which no end is a start, but for the whole.
* `Text.marked`: Parts with a mark before each of them.
* `Text.Seals`: A fixed text that keeps a mark from being found across it.

## Theorems

* `append_mark_inj`: The first mark cuts a text in one way only.
* `append_cons_inj`: So does the first separator.
* `append_marked_inj`: Parts between marks are found again.
* `not_infix_append`: When two texts next to each other are free of a mark.
* `Seals.between`: A fixed text keeps two texts free of a mark apart.
-/

namespace OpcodeForge.Text

/-- A mark of which no end is a start of it too, but for nothing and the whole. -/
def Borderless (mark : List Char) : Prop :=
  ∀ start ∈ mark.inits, start <:+ mark → start = [] ∨ start = mark

instance (mark : List Char) : Decidable (Borderless mark) :=
  inferInstanceAs (Decidable (∀ start ∈ mark.inits, start <:+ mark → start = [] ∨ start = mark))

/-- Parts with a mark before each of them. -/
def marked (mark : List Char) (parts : List (List Char)) : List Char :=
  parts.flatMap (mark ++ ·)

/-- A fixed text that keeps a mark from being found across it: the mark is not in it, and its
    first and its last character are none of the mark. -/
structure Seals (mark fixed : List Char) : Prop where
  free : ¬mark <:+: fixed
  first : ∃ c ∉ mark, fixed.head? = some c
  last : ∃ c ∉ mark, fixed.getLast? = some c

theorem exists_not_mem_iff (mark : List Char) (c? : Option Char) :
    c?.any (fun c => decide (c ∉ mark)) = true ↔ ∃ c ∉ mark, c? = some c := by
  rw [Option.any_eq_true]
  simp only [decide_eq_true_eq, and_comm]

instance (mark fixed : List Char) : Decidable (Seals mark fixed) :=
  decidable_of_iff (¬mark <:+: fixed ∧ fixed.head?.any (fun c => decide (c ∉ mark)) = true ∧
      fixed.getLast?.any (fun c => decide (c ∉ mark)) = true)
    ⟨fun ⟨hfree, hfirst, hlast⟩ =>
        ⟨hfree, (exists_not_mem_iff _ _).mp hfirst, (exists_not_mem_iff _ _).mp hlast⟩,
      fun h =>
        ⟨h.free, (exists_not_mem_iff _ _).mpr h.first, (exists_not_mem_iff _ _).mpr h.last⟩⟩

theorem borderless_singleton (c : Char) : Borderless [c] := by
  intro start hstart _
  rcases List.prefix_cons_iff.mp ((List.mem_inits _ _).mp hstart) with hnil | ⟨t, rfl, ht⟩
  · exact Or.inl hnil
  · rw [List.prefix_nil.mp ht]
    exact Or.inr rfl

theorem marked_cons (mark part : List Char) (rest : List (List Char)) :
    marked mark (part :: rest) = mark ++ (part ++ marked mark rest) := by
  unfold marked
  rw [List.flatMap_cons, List.append_assoc]

theorem infix_append_marked_cons (mark x part : List Char) (rest : List (List Char)) :
    mark <:+: x ++ marked mark (part :: rest) :=
  ⟨x, part ++ marked mark rest, by rw [marked_cons, List.append_assoc]⟩

section

variable (mark : List Char) (hmark : Borderless mark)

include hmark

/-- No mark begins before the first one without being a part of what stands there. -/
theorem eq_nil_of_mark (x z rest rest' : List Char) (hfree : ¬mark <:+: x ++ z)
    (h : mark ++ rest = z ++ (mark ++ rest')) : z = [] := by
  rcases List.append_eq_append_iff.mp h with ⟨surplus, hz, _⟩ | ⟨surplus, hm, hrest⟩
  · exact absurd ⟨x, surplus, by rw [hz, List.append_assoc]⟩ hfree
  · -- What the mark has over `z` is an end of it, and a start of the mark that follows.
    have hstart : surplus <+: mark := by
      have hlen : surplus.length ≤ mark.length := by
        rw [hm, List.length_append]
        omega
      exact List.prefix_of_prefix_length_le ⟨rest, hrest.symm⟩ (List.prefix_append mark rest') hlen
    rcases hmark surplus ((List.mem_inits _ _).mpr hstart) ⟨z, hm.symm⟩ with hnil | hall
    · rw [hnil, List.append_nil] at hm
      exact absurd ⟨x, [], by rw [hm, List.append_nil]⟩ hfree
    · rw [hall] at hm
      exact List.self_eq_append_left.mp hm

/-- The first mark cuts a text in one way only. -/
theorem append_mark_inj (x y rest rest' : List Char) (hx : ¬mark <:+: x) (hy : ¬mark <:+: y)
    (h : x ++ (mark ++ rest) = y ++ (mark ++ rest')) : x = y ∧ rest = rest' := by
  have hxy : x = y := by
    rcases List.append_eq_append_iff.mp h with ⟨z, rfl, hz⟩ | ⟨z, rfl, hz⟩
    · rw [eq_nil_of_mark mark hmark x z rest rest' hy hz, List.append_nil]
    · rw [eq_nil_of_mark mark hmark y z rest' rest hx hz, List.append_nil]
  rw [hxy] at h
  exact ⟨hxy, List.append_cancel_left (List.append_cancel_left h)⟩

/-- Parts between marks are found again. -/
theorem append_marked_inj (parts : List (List Char)) :
    ∀ (x y : List Char) (parts' : List (List Char)), ¬mark <:+: x → ¬mark <:+: y →
      (∀ part ∈ parts, ¬mark <:+: part) → (∀ part ∈ parts', ¬mark <:+: part) →
      x ++ marked mark parts = y ++ marked mark parts' → x = y ∧ parts = parts' := by
  induction parts with
  | nil =>
      intro x y parts' hx _ _ _ h
      cases parts' with
      | nil => exact ⟨List.append_cancel_right h, rfl⟩
      | cons part' rest' =>
          have hmarked := infix_append_marked_cons mark y part' rest'
          rw [← h, marked, List.flatMap_nil, List.append_nil] at hmarked
          exact absurd hmarked hx
  | cons part rest ih =>
      intro x y parts' hx hy hparts hparts' h
      cases parts' with
      | nil =>
          have hmarked := infix_append_marked_cons mark x part rest
          rw [h, marked, List.flatMap_nil, List.append_nil] at hmarked
          exact absurd hmarked hy
      | cons part' rest' =>
          rw [List.forall_mem_cons] at hparts hparts'
          rw [marked_cons, marked_cons] at h
          rcases append_mark_inj mark hmark x y _ _ hx hy h with ⟨hxy, hrest⟩
          rcases ih part part' rest' hparts.1 hparts'.1 hparts.2 hparts'.2 hrest with
            ⟨hpart, hmore⟩
          exact ⟨hxy, by rw [hpart, hmore]⟩

end

/-- The first separator cuts a text in one way only. -/
theorem append_cons_inj (c : Char) (x y rest rest' : List Char) (hx : c ∉ x) (hy : c ∉ y)
    (h : x ++ c :: rest = y ++ c :: rest') : x = y ∧ rest = rest' := by
  rw [← List.singleton_infix_iff] at hx hy
  exact append_mark_inj [c] (borderless_singleton c) x y rest rest' hx hy h

section

variable {mark fixed a b : List Char}

/-- Two texts next to each other are free of a mark if both are, and if a character that the mark
    does not have stands last in the first of them or first in the second. -/
theorem not_infix_append (hmeet : ∃ c ∉ mark, a.getLast? = some c ∨ b.head? = some c)
    (ha : ¬mark <:+: a) (hb : ¬mark <:+: b) : ¬mark <:+: a ++ b := by
  rcases hmeet with ⟨c, hc, hmeet⟩
  rw [List.infix_append_iff_ne_nil]
  rintro (h | h | ⟨front, back, hfront, hback, hm, ⟨before, rfl⟩, ⟨after, rfl⟩⟩)
  · exact ha h
  · exact hb h
  · -- The mark would go over the place, and have the character next to it.
    refine hc ?_
    rw [hm, List.mem_append]
    rcases hmeet with hlast | hhead
    · rw [List.getLast?_append_of_ne_nil before hfront] at hlast
      exact Or.inl (List.mem_of_getLast? hlast)
    · rw [List.head?_append_of_ne_nil back hback] at hhead
      exact Or.inr (List.mem_of_head? hhead)

/-- What follows a fixed text is kept free of the mark. -/
theorem Seals.before (h : Seals mark fixed) (hb : ¬mark <:+: b) : ¬mark <:+: fixed ++ b := by
  rcases h.last with ⟨c, hc, hlast⟩
  exact not_infix_append ⟨c, hc, Or.inl hlast⟩ h.free hb

/-- What a fixed text follows is kept free of the mark. -/
theorem Seals.after (h : Seals mark fixed) (ha : ¬mark <:+: a) : ¬mark <:+: a ++ fixed := by
  rcases h.first with ⟨c, hc, hfirst⟩
  exact not_infix_append ⟨c, hc, Or.inr hfirst⟩ ha h.free

/-- A fixed text keeps two texts free of the mark apart. -/
theorem Seals.between (h : Seals mark fixed) (ha : ¬mark <:+: a) (hb : ¬mark <:+: b) :
    ¬mark <:+: a ++ (fixed ++ b) := by
  rcases h.first with ⟨c, hc, hfirst⟩
  refine not_infix_append ⟨c, hc, Or.inr ?_⟩ ha (h.before hb)
  rw [List.head?_append, hfirst, Option.some_or]

end

end OpcodeForge.Text
