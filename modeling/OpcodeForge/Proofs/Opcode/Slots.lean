import Mathlib.Data.List.FinRange
import OpcodeForge.Opcode.Builder

/-!
# Entries in their Slots

A table is made of the slots of a builder from the first to the last, so what it holds is
said by the slots alone. As long as each entry lies in the slot of its own opcode, the
opcodes ascend strictly from the start: sorting changes nothing, and no opcode comes twice.

## Main definitions

* `Builder.Placed`: Each entry lies in the slot of its opcode.
* `Builder.filled`: The slots that hold an entry.

## Theorems

* `entries_eq`: The entries are those in the slots, in order.
* `entries_congr`: Builders with the same slots have the same entries.
* `forall₂_filled`: Each filled slot comes with its entry.
* `mem_entries_iff`: The entries are what is in some slot.
* `build_eq_ok_iff`: When a table is built, and which.
* `pairwise_entries`: The opcodes of the entries ascend strictly.
* `entries_ofList`: A table of placed entries lists them as they are.
-/

namespace OpcodeForge.Opcode

namespace Builder

/-- Each entry lies in the slot of its opcode. -/
def Placed (b : Builder) : Prop :=
  ∀ (k : Fin opcodeSpace) (e : Entry), b.get? k = some e → e.opcode = k.val

theorem entries_eq (b : Builder) :
    b.entries = (List.finRange opcodeSpace).filterMap b.get? := by
  have hslots : b.slots.toList = (List.finRange opcodeSpace).map b.get? := by
    apply List.ext_getElem
    · simp
    · intro i h _
      simp [get?]
  unfold entries
  rw [hslots, List.filterMap_map]
  rfl

theorem entries_congr (b b' : Builder) (h : ∀ k, b.get? k = b'.get? k) :
    b.entries = b'.entries := by
  rw [entries_eq, entries_eq, funext h]

/-- The slots that hold an entry, in order. -/
def filled (b : Builder) : List (Fin opcodeSpace) :=
  (List.finRange opcodeSpace).filter fun k => (b.get? k).isSome

theorem mem_filled_iff (b : Builder) (k : Fin opcodeSpace) :
    k ∈ b.filled ↔ ∃ e, b.get? k = some e := by
  unfold filled
  rw [List.mem_filter, Option.isSome_iff_exists]
  simp only [List.mem_finRange, true_and]

theorem pairwise_filled (b : Builder) : b.filled.Pairwise (· < ·) :=
  (List.pairwise_lt_finRange opcodeSpace).filter _

/-- Each filled slot comes with its entry. -/
theorem forall₂_filled (b : Builder) :
    List.Forall₂ (fun k e => b.get? k = some e) b.filled b.entries := by
  rw [entries_eq]
  unfold filled
  induction List.finRange opcodeSpace with
  | nil => exact .nil
  | cons k rest ih =>
      cases hk : b.get? k with
      | none =>
          rw [List.filterMap_cons_none hk, List.filter_cons_of_neg (by simp [hk])]
          exact ih
      | some e =>
          rw [List.filterMap_cons_some hk, List.filter_cons_of_pos (by simp [hk])]
          exact .cons hk ih

/-- The entries of a builder are those in its slots. -/
theorem mem_entries_iff (b : Builder) (e : Entry) :
    e ∈ b.entries ↔ ∃ k : Fin opcodeSpace, b.get? k = some e := by
  rw [entries_eq, List.mem_filterMap]
  simp only [List.mem_finRange, true_and]

theorem build_eq_ok_iff (b : Builder) (t : Table) :
    b.build = .ok t ↔ b.failures = [] ∧ .ofList b.entries = t := by
  unfold build
  by_cases h : b.failures.isEmpty = true
  · rw [if_pos h, Except.ok.injEq]
    exact ⟨fun ht => ⟨List.isEmpty_iff.mp h, ht⟩, fun ht => ht.2⟩
  · rw [if_neg h]
    refine ⟨fun ht => absurd ht (by simp only [reduceCtorEq, not_false_eq_true]), ?_⟩
    rintro ⟨hnil, _⟩
    exact absurd (List.isEmpty_iff.mpr hnil) h

theorem pairwise_entries (b : Builder) (h : b.Placed) :
    b.entries.Pairwise fun e e' => e.opcode < e'.opcode := by
  rw [entries_eq]
  refine (List.pairwise_lt_finRange opcodeSpace).filterMap _ ?_
  intro j k hjk e he e' he'
  have hj := h j e he
  have hk := h k e' he'
  have hlt : j.val < k.val := hjk
  omega

theorem entries_ofList (b : Builder) (h : b.Placed) :
    (Table.ofList b.entries).entries = b.entries := by
  refine List.mergeSort_of_pairwise ((pairwise_entries b h).imp fun hlt => ?_)
  simp only [Entry.notAfter, decide_eq_true_eq]
  omega

end Builder

end OpcodeForge.Opcode
