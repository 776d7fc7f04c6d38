import OpcodeForge.Proofs.Rendering.Dispatch

/-!
# The Order of Arms

A table has its entries in the order of their opcodes, and arms are sorted by their keys. That
makes no difference as long as all keys have two digits. What is checked is that they have two
characters, and so have the keys of the numbers from minus fifteen to minus one: a dash and a
digit. Such entries are rendered too, before all others, and the one that is last in the table
comes first.

So the order of the arms is that of `Number.keyRank`, and it is the order of the table exactly if
no two different negative numbers are among the opcodes.

## Theorems

* `pairwise_byKey`: Sorted entries are in the order of the places of their keys.
* `byKey_eq_self_iff`: When sorting by keys changes nothing.
* `dispatch_order`: Which opcodes are rendered, and in which order.
-/

namespace OpcodeForge.Rendering

open Opcode (Entry Table)
open Addressing (Registry)

/-- Sorted entries with keys of two characters are in the order of the places of the keys. -/
theorem pairwise_byKey (es : List Entry) (h : ∀ e ∈ es, e.key.length = keyWidth) :
    (byKey es).Pairwise fun a b => Number.keyRank a.opcode ≤ Number.keyRank b.opcode := by
  have htrans : ∀ a b c : Entry, decide (a.key ≤ b.key) = true → decide (b.key ≤ c.key) = true →
      decide (a.key ≤ c.key) = true := by
    simp only [decide_eq_true_eq]
    exact fun _ _ _ => String.le_trans
  have htotal : ∀ a b : Entry, (decide (a.key ≤ b.key) || decide (b.key ≤ a.key)) = true := by
    simp only [Bool.or_eq_true, decide_eq_true_eq]
    exact fun a b => String.le_total a.key b.key
  have hperm : (byKey es).Perm es := List.mergeSort_perm _ _
  refine (List.pairwise_mergeSort htrans htotal es).imp_of_mem fun {a b} ha hb hle => ?_
  exact (Number.hexKey_le_iff a.opcode b.opcode
    ((Number.length_hexKey_iff _).mp (h a (hperm.mem_iff.mp ha)))
    ((Number.length_hexKey_iff _).mp (h b (hperm.mem_iff.mp hb)))).mp (of_decide_eq_true hle)

/-- Sorting by keys changes nothing exactly if no two different negative numbers are among the
    opcodes. -/
theorem byKey_eq_self_iff (es : List Entry) (h : ∀ e ∈ es, e.key.length = keyWidth)
    (hascend : es.Pairwise fun a b => a.opcode ≤ b.opcode) :
    byKey es = es ↔
      ∀ a ∈ es, ∀ b ∈ es, a.opcode < 0 → b.opcode < 0 → a.opcode = b.opcode := by
  constructor
  · intro hsame
    have hranks := pairwise_byKey es h
    rw [hsame] at hranks
    have hboth : es.Pairwise fun a b =>
        a.opcode < 0 → b.opcode < 0 → a.opcode = b.opcode := by
      refine (hascend.and hranks).imp fun {a b} hab ha hb => ?_
      -- Of two negative numbers the greater one has the lower place.
      have hrank := hab.2
      unfold Number.keyRank at hrank
      rw [if_pos ha, if_pos hb] at hrank
      omega
    exact List.Pairwise.forall_of_forall_of_flip (fun _ _ _ _ => rfl) hboth
      (hboth.imp fun {a b} hab hb ha => (hab ha hb).symm)
  · intro hone
    refine List.mergeSort_of_pairwise (hascend.imp_of_mem fun {a b} ha hb hle => ?_)
    have hrange := (Number.length_hexKey_iff a.opcode).mp (h a ha)
    have hrange' := (Number.length_hexKey_iff b.opcode).mp (h b hb)
    have hsame := hone a ha b hb
    rw [decide_eq_true_eq]
    refine (Number.hexKey_le_iff a.opcode b.opcode hrange hrange').mpr ?_
    unfold Number.keyRank
    split
    · split <;> omega
    · split <;> omega

/-- Which opcodes are rendered, and in which order. The numbers from minus fifteen to minus one
    are rendered like bytes, with keys that are no two digits. The arms are in the order of the
    places of their keys, and in the order of the table exactly if no two different negative
    numbers are among the opcodes. -/
theorem dispatch_order (registry : Registry) (es : List Entry) (s : String)
    (h : dispatch registry (Table.ofList es) = .ok s) :
    s = dispatchHead ++ "\n".intercalate ((byKey (Table.ofList es).entries).map armOf)
      ++ dispatchTail ∧
    (∀ e ∈ es, -16 < e.opcode ∧ e.opcode < opcodeSpace) ∧
    (∀ e ∈ es, Number.IsByteKey e.key ↔ 0 ≤ e.opcode) ∧
    ((Table.ofList es).entries.Pairwise fun a b => a.opcode ≤ b.opcode) ∧
    ((byKey (Table.ofList es).entries).Pairwise fun a b =>
      Number.keyRank a.opcode ≤ Number.keyRank b.opcode) ∧
    (byKey (Table.ofList es).entries = (Table.ofList es).entries ↔
      ∀ a ∈ es, ∀ b ∈ es, a.opcode < 0 → b.opcode < 0 → a.opcode = b.opcode) := by
  rcases (dispatch_eq_ok_iff registry _ s).mp h with ⟨hall, htext⟩
  have hmem : ∀ e, e ∈ (Table.ofList es).entries ↔ e ∈ es := fun e =>
    (Table.perm_ofList es).mem_iff
  have hkeys : ∀ e ∈ (Table.ofList es).entries, e.key.length = keyWidth := fun e he =>
    (hall e he).1
  have hrange : ∀ e ∈ es, -16 < e.opcode ∧ e.opcode < opcodeSpace := fun e he =>
    (Number.length_hexKey_iff _).mp (hkeys e ((hmem e).mpr he))
  have hascend := Table.pairwise_ofList es
  have hself := byKey_eq_self_iff _ hkeys hascend
  simp only [hmem] at hself
  refine ⟨htext.symm, hrange, fun e he => ?_, hascend, pairwise_byKey _ hkeys, hself⟩
  exact (Number.isByteKey_hexKey_iff e.opcode).trans ⟨fun hbyte => hbyte.1, fun hpos =>
    ⟨hpos, (hrange e he).2⟩⟩

/-- An entry that does nothing, for any number. -/
def idle (opcode : Int) : Entry :=
  ⟨opcode, "imp", "NOP", .count 2, false, "", Opcode.defaultSource⟩

/-- The arms of minus two and minus one are rendered under keys that are no two digits, and not
    in the order of their table. -/
theorem dispatch_order_negative :
    let t := Table.ofList [idle (-1), idle (-2)]
    dispatch Registry.default t = .ok (dispatchHead
        ++ "\n".intercalate [armOf (idle (-1)), armOf (idle (-2))] ++ dispatchTail) ∧
      t.entries = [idle (-2), idle (-1)] ∧ byKey t.entries ≠ t.entries ∧
      ¬Number.IsByteKey (idle (-1)).key := by
  intro t
  have hpair : ∀ (le : Entry → Entry → Bool) (a b : Entry),
      [a, b].mergeSort le = if le a b then [a, b] else [b, a] := by
    intro le a b
    simp [List.mergeSort, List.MergeSort.Internal.splitInTwo, List.merge]
  have hentries : t.entries = [idle (-2), idle (-1)] :=
    (hpair Entry.notAfter _ _).trans (if_neg (by decide))
  have hsorted : byKey t.entries = [idle (-1), idle (-2)] := by
    rw [hentries]
    exact (hpair _ _ _).trans (if_neg (by decide))
  have hs : dispatch Registry.default t = .ok (dispatchHead
      ++ "\n".intercalate [armOf (idle (-1)), armOf (idle (-2))] ++ dispatchTail) := by
    refine (dispatch_eq_ok_iff _ _ _).mpr ⟨?_, by rw [hsorted]; rfl⟩
    rw [hentries]
    decide +kernel
  rcases dispatch_order Registry.default _ _ hs with ⟨_, _, hkeys, _, _, hself⟩
  refine ⟨hs, hentries, fun hsame => ?_, fun hkey => ?_⟩
  · have hnumbers := hself.mp hsame (idle (-1)) (by decide) (idle (-2)) (by decide) (by decide)
      (by decide)
    exact absurd hnumbers (by decide)
  · exact absurd ((hkeys (idle (-1)) (by decide)).mp hkey) (by decide)

end OpcodeForge.Rendering
