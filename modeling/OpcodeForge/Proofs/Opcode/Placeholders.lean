import Mathlib.Data.List.Nodup
import OpcodeForge.Opcode.Table

/-!
# Names without a Body

Which empty bodies a table asks for. They are collected along the entries of the table, and
what was found so far decides about the next entry, so that no name comes twice. In the end
only two things count: the lower case names of the default entries, and the lower case
names that are defined. Neither the order of the entries nor how often a name occurs is
seen in the result.

## Theorems

* `mem_undefinedNames_iff`: What has been found after some entries.
* `nodup_undefinedNames`: Nothing is found twice.
* `mem_placeholders_iff`: A placeholder is the name of a default that nobody defines.
* `nodup_placeholders`: No placeholder comes twice.
-/

namespace OpcodeForge.Opcode.Table

theorem mem_undefinedNames_iff (defined : List String) (name : String) (es : List Entry) :
    ∀ found, name ∈ undefinedNames defined found es ↔ name ∈ found ∨
      (∃ e ∈ es, e.isDefault = true ∧ Text.lower e.instruction = name) ∧ name ∉ defined := by
  induction es with
  | nil =>
      intro found
      simp only [undefinedNames, List.not_mem_nil, false_and, exists_false, or_false]
  | cons e rest ih =>
      intro found
      unfold undefinedNames
      simp only [Bool.and_eq_true, Bool.not_eq_true', List.contains_eq_mem,
        decide_eq_false_iff_not, List.mem_cons, exists_eq_or_imp]
      split
      · rename_i hnew
        rw [ih, List.mem_append, List.mem_singleton]
        by_cases hname : name = Text.lower e.instruction
        · -- The name is found here, whatever comes later.
          have hdefined : name ∉ defined := hname ▸ hnew.1.2
          simp only [hname, hnew.1.1, hname ▸ hdefined, or_true, true_or, and_self,
            not_false_eq_true]
        · simp only [hname, Ne.symm hname, or_false, and_false, false_or]
      · rename_i hold
        rw [ih]
        by_cases hname : Text.lower e.instruction = name
        · rw [hname] at hold
          by_cases hdefault : e.isDefault = true
          · -- The name is defined, or was found before.
            by_cases hdefined : name ∈ defined
            · simp only [hdefined, not_true_eq_false, and_false, or_false]
            · have hfound : name ∈ found := by
                by_contra hfound
                exact hold ⟨⟨hdefault, hdefined⟩, hfound⟩
              simp only [hfound, true_or]
          · simp only [hdefault, Bool.false_eq_true, false_and, false_or]
        · simp only [hname, and_false, false_or]

theorem nodup_undefinedNames (defined : List String) (es : List Entry) :
    ∀ found, found.Nodup → (undefinedNames defined found es).Nodup := by
  induction es with
  | nil => exact fun found h => h
  | cons e rest ih =>
      intro found h
      unfold undefinedNames
      simp only [Bool.and_eq_true, Bool.not_eq_true', List.contains_eq_mem, decide_eq_false_iff_not]
      split
      · rename_i hnew
        exact ih _ (List.nodup_append.mpr ⟨h, List.nodup_singleton _, fun a ha b hb hab =>
          hnew.2 (List.mem_singleton.mp hb ▸ hab ▸ ha)⟩)
      · exact ih found h

/-- A name gets an empty body if a default entry calls it and no instruction defines it,
    whatever the case of the letters. -/
theorem mem_placeholders_iff (t : Table) (defined : List String) (name : String) :
    name ∈ t.placeholders defined ↔
      (∃ e ∈ t.entries, e.isDefault = true ∧ Text.lower e.instruction = name) ∧
        ∀ s ∈ defined, Text.lower s ≠ name := by
  unfold placeholders
  rw [List.mem_mergeSort, mem_undefinedNames_iff]
  simp only [List.not_mem_nil, false_or, List.mem_map, not_exists, not_and, ne_eq]

theorem nodup_placeholders (t : Table) (defined : List String) :
    (t.placeholders defined).Nodup := by
  unfold placeholders
  exact (List.mergeSort_perm _ _).nodup_iff.mpr (nodup_undefinedNames _ _ [] List.nodup_nil)

end OpcodeForge.Opcode.Table
