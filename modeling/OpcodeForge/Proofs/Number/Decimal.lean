import OpcodeForge.Opcode.Reference

/-!
# Written Cycles

The cycles of an entry are written as the decimal text of a number, or as the name of a truth
value. Either can be told from what stands around it: it has digits and a dash only, or it is one
of two words. And it tells what was written, since the digits of a number can be read back.

## Theorems

* `Number.of_mem_decimalChars`: A decimal text has digits and a dash only.
* `Number.decimalChars_inj`: A decimal text tells its number.
* `Opcode.Cycles.of_mem_text`: The text of a cycle count has these only, or letters of two words.
* `Opcode.Cycles.text_inj`: The text of a cycle count tells the count.
-/

namespace OpcodeForge

namespace Number

/-- A decimal text has digits and a dash only. -/
theorem of_mem_decimalChars (i : Int) (c : Char) (h : c ∈ decimalChars i) :
    c = '-' ∨ c.isDigit = true := by
  cases i with
  | ofNat n => exact Or.inr (Nat.isDigit_of_mem_toDigits (by decide) (by decide) h)
  | negSucc n =>
      rcases List.mem_cons.mp h with rfl | h
      · exact Or.inl rfl
      · exact Or.inr (Nat.isDigit_of_mem_toDigits (by decide) (by decide) h)

theorem toDigits_inj (m n : Nat) (h : Nat.toDigits 10 m = Nat.toDigits 10 n) : m = n := by
  have hback := congrArg (fun cs => Nat.ofDigitChars 10 cs 0) h
  simpa only [Nat.ofDigitChars_ten_toDigits] using hback

/-- A decimal text tells its number. -/
theorem decimalChars_inj (i j : Int) (h : decimalChars i = decimalChars j) : i = j := by
  have hdash : ∀ n : Nat, '-' ∉ Nat.toDigits 10 n := fun n hmem =>
    absurd (Nat.isDigit_of_mem_toDigits (by decide) (by decide) hmem) (by decide)
  cases i with
  | ofNat m =>
      cases j with
      | ofNat n => rw [toDigits_inj m n h]
      | negSucc n =>
          have hmem : '-' ∈ decimalChars (.ofNat m) := h ▸ List.mem_cons_self
          exact absurd hmem (hdash m)
  | negSucc m =>
      cases j with
      | ofNat n =>
          have hmem : '-' ∈ decimalChars (.ofNat n) := h ▸ List.mem_cons_self
          exact absurd hmem (hdash n)
      | negSucc n =>
          have hsucc := toDigits_inj (m + 1) (n + 1) (List.cons.inj h).2
          rw [Nat.succ.inj hsucc]

end Number

namespace Opcode

/-- The text of a cycle count has digits and a dash only, or is the name of a truth value. -/
theorem Cycles.of_mem_text (n : Cycles) (c : Char) (h : c ∈ n.text.toList) :
    c = '-' ∨ c.isDigit = true ∨ c ∈ "TrueFalse".toList := by
  cases n with
  | count i =>
      rw [Cycles.text, Number.decimal, String.toList_ofList] at h
      exact (Number.of_mem_decimalChars i c h).imp_right Or.inl
  | flag b =>
      have hwords : (Cycles.flag b).text.toList.all (· ∈ "TrueFalse".toList) = true := by
        cases b <;> decide
      exact Or.inr (Or.inr (of_decide_eq_true (List.all_eq_true.mp hwords c h)))

/-- The text of a cycle count tells the count. -/
theorem Cycles.text_inj (m n : Cycles) (h : m.text = n.text) : m = n := by
  -- The names of the truth values start with letters.
  have hword : ∀ (i : Int) (b : Bool), (Cycles.count i).text ≠ (Cycles.flag b).text := by
    intro i b heq
    have hall := Number.of_mem_decimalChars i
    rw [Cycles.text, Number.decimal] at heq
    have hlist := congrArg String.toList heq
    rw [String.toList_ofList] at hlist
    rw [hlist] at hall
    cases b with
    | false => exact absurd (hall 'F' (by decide)) (by decide)
    | true => exact absurd (hall 'T' (by decide)) (by decide)
  cases m with
  | count i =>
      cases n with
      | count j =>
          rw [Cycles.text, Cycles.text, Number.decimal, Number.decimal, String.ofList_inj] at h
          rw [Number.decimalChars_inj i j h]
      | flag b => exact absurd h (hword i b)
  | flag b =>
      cases n with
      | count j => exact absurd h.symm (hword j b)
      | flag b' =>
          have hflags : ∀ b b' : Bool, (Cycles.flag b).text = (Cycles.flag b').text → b = b' := by
            decide
          rw [hflags b b' h]

end Opcode

end OpcodeForge
