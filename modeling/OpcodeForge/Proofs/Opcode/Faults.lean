import OpcodeForge.Proofs.Opcode.Run

/-!
# Rows without Faults

When a run of a builder reports nothing. The lists of faults follow the order in which
rows are looked at; that they are empty does not depend on any order. Each row must
declare an entry, and no two rows may declare one opcode.

## Main definitions

* `Apart`: Two rows that do not declare one opcode.

## Theorems

* `firstDeclared?_eq_none_iff`: When no row has an opcode.
* `rowFailure?_eq_none_iff`: When a row has no fault.
* `rowFailures_eq_nil_iff`: When rows have no faults.
* `length_entriesAt_le`: Then an opcode is declared at most once.
* `referenceFailures_eq_nil_iff`: When a reference has no faults.
-/

namespace OpcodeForge.Opcode

open Addressing (Registry)
open Specification (Instruction)

/-- Two rows that do not declare one opcode. -/
def Apart (registry : Registry) (x y : Instruction × Row) : Prop :=
  ∀ e e', Declares registry x.1 x.2 e → Declares registry y.1 y.2 e' → e.opcode ≠ e'.opcode

theorem entryAt?_eq_some_iff (registry : Registry) (b : Int) (x : Instruction × Row)
    (e : Entry) : entryAt? registry b x = some e ↔ Declares registry x.1 x.2 e ∧ e.opcode = b := by
  rw [← declaration_eq_ok_iff]
  cases hd : declaration registry x.1 x.2 with
  | error f =>
      rw [entryAt?_of_error registry b x f hd]
      simp only [reduceCtorEq, false_and]
  | ok e' =>
      rw [entryAt?_of_ok registry b x e' hd, Except.ok.injEq]
      by_cases hb : e'.opcode = b
      · rw [if_pos hb, Option.some.injEq]
        exact ⟨fun he => ⟨he, he ▸ hb⟩, fun h => h.1⟩
      · rw [if_neg hb]
        refine ⟨fun h => absurd h (by simp only [reduceCtorEq, not_false_eq_true]), ?_⟩
        rintro ⟨rfl, hb'⟩
        exact absurd hb' hb

theorem firstDeclared?_eq_none_iff (registry : Registry) (b : Int)
    (rows : List (Instruction × Row)) : firstDeclared? registry b rows = none ↔
      ∀ x ∈ rows, ∀ e, Declares registry x.1 x.2 e → e.opcode ≠ b := by
  unfold firstDeclared? entriesAt
  rw [List.head?_eq_none_iff, List.filterMap_eq_nil_iff]
  constructor
  · intro h x hx e he hb
    have hsome := (entryAt?_eq_some_iff registry b x e).mpr ⟨he, hb⟩
    rw [h x hx] at hsome
    exact absurd hsome (by simp only [reduceCtorEq, not_false_eq_true])
  · intro h x hx
    cases hat : entryAt? registry b x with
    | none => rfl
    | some e =>
        rcases (entryAt?_eq_some_iff registry b x e).mp hat with ⟨he, hb⟩
        exact absurd hb (h x hx e he)

/-- A row has no fault if it declares an entry with a new opcode. -/
theorem rowFailure?_eq_none_iff (registry : Registry) (before : List (Instruction × Row))
    (x : Instruction × Row) : rowFailure? registry before x = none ↔
      (∃ e, Declares registry x.1 x.2 e) ∧ ∀ y ∈ before, Apart registry y x := by
  unfold rowFailure?
  cases hd : declaration registry x.1 x.2 with
  | error f =>
      refine ⟨fun h => absurd h (by simp only [reduceCtorEq, not_false_eq_true]), ?_⟩
      rintro ⟨⟨e, he⟩, -⟩
      rw [(declaration_eq_ok_iff registry x.1 x.2 e).mpr he] at hd
      exact absurd hd (by simp only [reduceCtorEq, not_false_eq_true])
  | ok e =>
      have he := (declaration_eq_ok_iff registry x.1 x.2 e).mp hd
      simp only [Option.map_eq_none_iff, firstDeclared?_eq_none_iff]
      constructor
      · refine fun h => ⟨⟨e, he⟩, fun y hy e₁ e₂ h₁ h₂ => ?_⟩
        have hsame : e₂ = e := by
          rw [← declaration_eq_ok_iff, hd, Except.ok.injEq] at h₂
          exact h₂.symm
        rw [hsame]
        exact h y hy e₁ h₁
      · exact fun h y hy e₁ h₁ => h.2 y hy e₁ e h₁ he

theorem rowFailures_eq_nil_iff_of_before (registry : Registry)
    (rows : List (Instruction × Row)) : ∀ before, rowFailures registry before rows = [] ↔
      (∀ x ∈ rows, ∃ e, Declares registry x.1 x.2 e) ∧
        (∀ y ∈ before, ∀ x ∈ rows, Apart registry y x) ∧ rows.Pairwise (Apart registry) := by
  induction rows with
  | nil =>
      intro before
      simp only [rowFailures, List.not_mem_nil, false_implies, implies_true, List.Pairwise.nil,
        and_self]
  | cons x rest ih =>
      intro before
      unfold rowFailures
      rw [List.append_eq_nil_iff, Option.toList_eq_nil_iff, rowFailure?_eq_none_iff, ih,
        List.pairwise_cons]
      simp only [List.mem_cons, List.mem_append, List.not_mem_nil, or_false]
      constructor
      · rintro ⟨⟨hx, hbefore⟩, hrest, happart, hpairs⟩
        refine ⟨?_, ?_, fun y hy => happart x (Or.inr rfl) y hy, hpairs⟩
        · rintro y (rfl | hy)
          · exact hx
          · exact hrest y hy
        · rintro y hy z (rfl | hz)
          · exact hbefore y hy
          · exact happart y (Or.inl hy) z hz
      · rintro ⟨hdec, hbefore, hx, hpairs⟩
        refine ⟨⟨hdec x (Or.inl rfl), fun y hy => hbefore y hy x (Or.inl rfl)⟩,
          fun y hy => hdec y (Or.inr hy), ?_, hpairs⟩
        rintro y (hy | rfl) z hz
        · exact hbefore y hy z (Or.inr hz)
        · exact hx z hz

/-- Rows have no faults if each declares an entry and no two declare one opcode. -/
theorem rowFailures_eq_nil_iff (registry : Registry) (rows : List (Instruction × Row)) :
    rowFailures registry [] rows = [] ↔
      (∀ x ∈ rows, ∃ e, Declares registry x.1 x.2 e) ∧ rows.Pairwise (Apart registry) := by
  rw [rowFailures_eq_nil_iff_of_before]
  simp only [List.not_mem_nil, false_implies, implies_true, true_and]

/-- Rows without faults declare an opcode at most once. -/
theorem length_entriesAt_le (registry : Registry) (b : Int) (rows : List (Instruction × Row))
    (h : rowFailures registry [] rows = []) : (entriesAt registry b rows).length ≤ 1 := by
  have hapart := ((rowFailures_eq_nil_iff registry rows).mp h).2
  have hpairs : (entriesAt registry b rows).Pairwise fun _ _ => False := by
    refine hapart.filterMap _ ?_
    intro x y hxy e he e' he'
    rcases (entryAt?_eq_some_iff registry b x e).mp he with ⟨hx, hb⟩
    rcases (entryAt?_eq_some_iff registry b y e').mp he' with ⟨hy, hb'⟩
    exact hxy e e' hx hy (hb.trans hb'.symm)
  rcases hat : entriesAt registry b rows with _ | ⟨e, _ | ⟨e', rest⟩⟩
  · simp
  · simp
  · rw [hat] at hpairs
    exact ((List.pairwise_cons.mp hpairs).1 e' List.mem_cons_self).elim

/-- A reference has no faults if the modes of its placeholders are enabled. -/
theorem referenceFailures_eq_nil_iff (registry : Registry) (rows : List ReferenceRow) :
    ∀ k, referenceFailures registry k rows = [] ↔
      ∀ r ∈ rows, isPlaceholder r.name = true → registry.isEnabledCode r.mode = true := by
  induction rows with
  | nil =>
      intro k
      simp only [referenceFailures, List.not_mem_nil, false_implies, implies_true]
  | cons r rest ih =>
      intro k
      unfold referenceFailures referenceFailure?
      rw [List.append_eq_nil_iff, Option.toList_eq_nil_iff, ih, List.forall_mem_cons]
      cases isPlaceholder r.name with
      | false => simp only [Bool.false_and, Bool.false_eq_true, if_false, false_implies, true_and]
      | true =>
          cases registry.isEnabledCode r.mode with
          | false =>
              simp only [Bool.not_false, Bool.and_self, if_true, reduceCtorEq, false_and,
                Bool.false_eq_true, imp_false, not_true_eq_false]
          | true =>
              simp only [Bool.not_true, Bool.and_false, Bool.false_eq_true, if_false, true_and,
                implies_true]

end OpcodeForge.Opcode
