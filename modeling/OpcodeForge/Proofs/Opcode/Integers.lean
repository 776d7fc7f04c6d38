import OpcodeForge.Opcode.ReferenceFile
import OpcodeForge.Proofs.Number.Decimal
import OpcodeForge.Proofs.Number.Numeral

/-!
# Integers in Text Form

The cycles of a row may be given as a text. One that starts with the mark of base sixteen is
read in that base, and every other one in base ten. A mark behind a blank or a sign does not
count as one, nor does a capital one, and in base ten no mark is a digit: such a text denotes no
integer. What is read is an integer or reported, and nothing else happens.

## Theorems

* `numeralBase_eq`: The base is that of the first two characters.
* `integerOf?_eq_some_iff`: The texts that denote an integer.
* `cycles_text`: Cycles in text form are read or reported.
* `cycles_decimal`, `cycles_hexadecimal`: Written numbers are read back.
* `integers_read`: All of this about texts as cycles.
-/

namespace OpcodeForge.Opcode

/-- The mark of base sixteen with which a text starts. -/
def hexMark : List Char := ['0', 'x']

theorem numeralBase_eq (cs : List Char) :
    (hexMark <+: cs ∧ numeralBase cs = 16) ∨ (¬hexMark <+: cs ∧ numeralBase cs = 10) := by
  have hmarked : hexMark <+: cs ↔ cs.take 2 = ['0', 'x'] :=
    List.prefix_iff_eq_take.trans eq_comm
  unfold numeralBase
  by_cases h : cs.take 2 = ['0', 'x']
  · exact Or.inl ⟨hmarked.mpr h, if_pos h⟩
  · exact Or.inr ⟨fun hp => h (hmarked.mp hp), if_neg h⟩

/-- The texts that denote an integer. -/
theorem integerOf?_eq_some_iff (s : String) (i : Int) : integerOf? s = some i ↔
    (hexMark <+: s.toList ∧ Number.Numeral 16 s.toList i) ∨
      (¬hexMark <+: s.toList ∧ Number.Numeral 10 s.toList i) := by
  unfold integerOf?
  rcases numeralBase_eq s.toList with ⟨hmark, hbase⟩ | ⟨hmark, hbase⟩
  · rw [hbase, Number.integer?_eq_some_iff (by decide)]
    simp only [hmark, true_and, not_true_eq_false, false_and, or_false]
  · rw [hbase, Number.integer?_eq_some_iff (by decide)]
    simp only [hmark, false_and, not_false_eq_true, true_and, false_or]

/-- Cycles in text form are the integer that the text denotes, or reported with the text. -/
theorem cycles_text (s : String) : Cycles.ofValue (.text s) =
    match integerOf? s with
    | some i => .ok (.count i)
    | none => .error (.failure (.config (.badInteger (.text s)))) := by
  have hreport : notAnInteger (.text s) = .failure (.config (.badInteger (.text s))) := by
    unfold notAnInteger
    rw [if_pos (by simp only [Value.isWritable])]
  cases hs : integerOf? s with
  | none => simp only [Cycles.ofValue, hs, hreport]
  | some i => simp only [Cycles.ofValue, hs]

theorem cycles_eq_count_iff (s : String) (i : Int) : Cycles.ofValue (.text s) = .ok (.count i) ↔
    (hexMark <+: s.toList ∧ Number.Numeral 16 s.toList i) ∨
      (¬hexMark <+: s.toList ∧ Number.Numeral 10 s.toList i) := by
  rw [← integerOf?_eq_some_iff, cycles_text]
  cases integerOf? s with
  | none => simp only [reduceCtorEq]
  | some j => simp only [Except.ok.injEq, Cycles.count.injEq, Option.some.injEq]

/-- An integer is read back from its decimal text, which has no mark. -/
theorem cycles_decimal (i : Int) (h : (Nat.toDigits 10 i.natAbs).length ≤ Number.maxDigits) :
    Cycles.ofValue (.text (Number.decimal i)) = .ok (.count i) := by
  have hmark : ¬hexMark <+: Number.decimalChars i := by
    intro hmark
    rcases Number.of_mem_decimalChars i 'x' (hmark.subset (by decide)) with h | h
    · exact absurd h (by decide)
    · exact absurd h (by decide)
  refine (cycles_eq_count_iff _ i).mpr (Or.inr ?_)
  unfold Number.decimal
  rw [String.toList_ofList]
  exact ⟨hmark, Number.numeral_decimalChars i h⟩

/-- A number is read back from its hexadecimal digits behind the mark. -/
theorem cycles_hexadecimal (n : Nat) (digits cs : List Char)
    (hdigits : digits.map Char.toLower = Nat.toDigits 16 n) (hcs : Number.InGroups digits cs) :
    Cycles.ofValue (.text (String.ofList (hexMark ++ cs))) = .ok (.count n) := by
  refine (cycles_eq_count_iff _ n).mpr (Or.inl ?_)
  rw [String.toList_ofList]
  exact ⟨List.prefix_append _ _,
    Number.numeral_hexadecimal n hexMark digits cs (by decide) hdigits hcs⟩

/-- Integers in text form. An integer is read back from its decimal text unless that is too
    long, and a number of any size from its hexadecimal digits behind the mark, in any case and
    in any groups. Every other text is read if it is a numeral in its base and else reported. -/
theorem integers_read :
    (∀ i : Int, (Nat.toDigits 10 i.natAbs).length ≤ Number.maxDigits →
      Cycles.ofValue (.text (Number.decimal i)) = .ok (.count i)) ∧
    (∀ (n : Nat) (digits cs : List Char), digits.map Char.toLower = Nat.toDigits 16 n →
      Number.InGroups digits cs →
      Cycles.ofValue (.text (String.ofList (hexMark ++ cs))) = .ok (.count n)) ∧
    (∀ s : String, (∃ i, Cycles.ofValue (.text s) = .ok (.count i)) ∨
      Cycles.ofValue (.text s) = .error (.failure (.config (.badInteger (.text s))))) ∧
    ∀ (s : String) (i : Int), Cycles.ofValue (.text s) = .ok (.count i) ↔
      (hexMark <+: s.toList ∧ Number.Numeral 16 s.toList i) ∨
        (¬hexMark <+: s.toList ∧ Number.Numeral 10 s.toList i) := by
  refine ⟨cycles_decimal, cycles_hexadecimal, fun s => ?_, cycles_eq_count_iff⟩
  rw [cycles_text]
  cases integerOf? s with
  | none => exact Or.inr rfl
  | some i => exact Or.inl ⟨i, rfl⟩

theorem integers_read_mixed :
    Cycles.ofValue (.text "-12") = .ok (.count (-12)) ∧
      Cycles.ofValue (.text "0xfF_0a") = .ok (.count 65290) ∧
      Cycles.ofValue (.text "0X2") = .error (.failure (.config (.badInteger (.text "0X2")))) ∧
      Cycles.ofValue (.text " +\u0661_2 ") = .ok (.count 12) := by
  have hgroups : Number.InGroups ['f', 'F', '0', 'a'] ['f', 'F', '_', '0', 'a'] :=
    .next _ _ _ (.line _ _ _ (.next _ _ _ (.last _)))
  have harabic : Number.IsDigitIn 10 '\u0661' 1 := ⟨by decide, Or.inl ⟨by decide, 0x660, by decide⟩⟩
  have htwo : Number.IsDigitIn 10 '2' 2 := ⟨by decide, Or.inr (by decide)⟩
  have hnumeral : Number.Numeral 10 [' ', '+', '\u0661', '_', '2', ' '] 12 :=
    .parts [' '] [' '] ['+'] [] ['\u0661', '_', '2'] 1 [1, 2]
      (List.all_eq_true.mp (by decide)) (List.all_eq_true.mp (by decide)) (by decide)
      (by decide) (.line _ _ _ _ harabic (.last _ _ htwo)) (by decide)
  have hdecimal : Number.decimal (-12) = "-12" := by decide
  have hhex : String.ofList (hexMark ++ ['f', 'F', '_', '0', 'a']) = "0xfF_0a" := by decide
  have hcapital : ∀ i, Cycles.ofValue (.text "0X2") ≠ .ok (.count i) := by
    intro i h
    rw [cycles_text, show integerOf? "0X2" = none by decide] at h
    exact absurd h (by simp only [reduceCtorEq, not_false_eq_true])
  exact ⟨hdecimal ▸ integers_read.1 (-12) (by decide),
    hhex ▸ integers_read.2.1 65290 _ _ (by decide) hgroups,
    (integers_read.2.2.1 "0X2").resolve_left fun h => hcapital h.choose h.choose_spec,
    (integers_read.2.2.2 _ 12).mpr (Or.inr ⟨by decide, hnumeral⟩)⟩

end OpcodeForge.Opcode
