import Mathlib.Data.List.TakeWhile
import Mathlib.Data.Nat.Digits.Defs
import OpcodeForge.Number.Numeral

/-!
# Digits and the Blanks Around Them

A digit is worth its place among the digits of its script. Decimal digits come in the digits of
many scripts, of which no two are within ten characters of each other, so the zero that is found
for a digit is that of its script. Hexadecimal digits are ASCII characters in two cases.

A field or a numeral has blanks around it, and these are cut off from both ends before it is
read. That takes nothing else away, and all of them if what stands between them neither starts
nor ends with one. No digit is a blank.

## Main definitions

* `Text.IsHexDigit`, `Text.IsDecimalDigit`: Digits and what they are worth.

## Theorems

* `IsHexDigit.all`: What holds for the hexadecimal digits of both cases.
* `hexValue?_eq_some_iff`, `digitValue?_eq_some_iff`: Digits are found with their worth.
* `hexValue?_toUpper`: The digits of both cases have the same values.
* `isBlank_of_isDigit`: No digit is blank.
* `dropEndWhile_dropWhile_of_ends`: What stands around a text is cut off.
* `exists_eq_append_dropEndWhile`: Cutting it off cuts off nothing else.
* `Number.foldDigits_eq_ofDigits`: What a row of digits is worth.
-/

namespace OpcodeForge

namespace Text

/-- A hexadecimal digit in one of the two cases. It is worth its place among the digits. -/
def IsHexDigit (c : Char) (v : Nat) : Prop :=
  "0123456789abcdef".toList[v]? = some c ∨ "0123456789ABCDEF".toList[v]? = some c

instance (c : Char) (v : Nat) : Decidable (IsHexDigit c v) :=
  inferInstanceAs (Decidable (_ ∨ _))

/-- What holds for the digits of both cases holds for each hexadecimal digit. -/
theorem IsHexDigit.all {c : Char} {v : Nat} (h : IsHexDigit c v) (p : Char → Bool)
    (hp : ("0123456789abcdef".toList ++ "0123456789ABCDEF".toList).all p = true) : p c = true :=
  List.all_eq_true.mp hp c
    (List.mem_append.mpr (h.imp List.mem_of_getElem? List.mem_of_getElem?))

/-- A decimal digit of some script. It is worth its distance from the zero of the script. -/
def IsDecimalDigit (c : Char) (v : Nat) : Prop :=
  v < 10 ∧ ∃ z ∈ digitZeros, c.toNat = z + v

theorem hexValue?_eq_some_iff (c : Char) (v : Nat) : hexValue? c = some v ↔ IsHexDigit c v := by
  constructor
  · intro h
    -- There are no other digits than those among the first characters, which are gone through.
    have hascii : c.toNat < 128 := by
      by_contra hlarge
      have hnone : hexValue? c = none := by
        unfold hexValue?
        simp only [Char.isDigit, Bool.and_eq_true, decide_eq_true_eq, Char.le_def,
          UInt32.le_iff_toNat_le]
        have hval : c.val.toNat = c.toNat := rfl
        rw [if_neg (by simp; omega), if_neg (by simp; omega), if_neg (by simp; omega)]
      rw [hnone] at h
      exact absurd h (by simp)
    have hall : ∀ n : Fin 128, ∀ v ∈ hexValue? (Char.ofNat n), IsHexDigit (Char.ofNat n) v := by
      decide +kernel
    have hc := hall ⟨c.toNat, hascii⟩ v
    rw [Char.ofNat_toNat] at hc
    exact hc h
  · have hlower : ∀ digit ∈ "0123456789abcdef".toList.zipIdx,
        hexValue? digit.1 = some digit.2 := by decide +kernel
    have hupper : ∀ digit ∈ "0123456789ABCDEF".toList.zipIdx,
        hexValue? digit.1 = some digit.2 := by decide +kernel
    rintro (h | h)
    · exact hlower (c, v) (List.mk_mem_zipIdx_iff_getElem?.mpr h)
    · exact hupper (c, v) (List.mk_mem_zipIdx_iff_getElem?.mpr h)

/-- The digits of two scripts are apart, so the zero that is found is that of the script. -/
theorem digitValue?_eq_some_iff (c : Char) (v : Nat) :
    digitValue? c = some v ↔ IsDecimalDigit c v := by
  have happart : ∀ z ∈ digitZeros, ∀ z' ∈ digitZeros, z ≤ z' + 9 → z' ≤ z + 9 → z = z' := by
    decide +kernel
  unfold digitValue?
  rw [Option.map_eq_some_iff]
  constructor
  · rintro ⟨z, hz, rfl⟩
    have hrange := List.find?_some hz
    simp only [Bool.and_eq_true, decide_eq_true_eq] at hrange
    exact ⟨by omega, z, List.mem_of_find?_eq_some hz, by omega⟩
  · rintro ⟨hv, z, hz, hc⟩
    have hfound : (digitZeros.find? fun z => z ≤ c.toNat && c.toNat ≤ z + 9).isSome := by
      rw [List.find?_isSome]
      exact ⟨z, hz, by simp only [Bool.and_eq_true, decide_eq_true_eq]; omega⟩
    rcases Option.isSome_iff_exists.mp hfound with ⟨z', hz'⟩
    have hrange := List.find?_some hz'
    simp only [Bool.and_eq_true, decide_eq_true_eq] at hrange
    have hsame := happart z hz z' (List.mem_of_find?_eq_some hz') (by omega) (by omega)
    exact ⟨z', hz', by omega⟩

theorem hexValue?_toUpper (c : Char) : hexValue? c.toUpper = hexValue? c := by
  by_cases hc : 97 ≤ c.toNat ∧ c.toNat ≤ 122
  · have hall : ∀ k : Fin 26, hexValue? (Char.ofNat (97 + k)).toUpper
        = hexValue? (Char.ofNat (97 + k)) := by decide
    have hk := hall ⟨c.toNat - 97, by omega⟩
    have hsum : 97 + (c.toNat - 97) = c.toNat := by omega
    simpa only [hsum, Char.ofNat_toNat] using hk
  · unfold Char.toUpper
    rw [dif_neg]
    rintro ⟨hlow, hhigh⟩
    exact hc ⟨by simpa using UInt32.le_iff_toNat_le.mp hlow,
      by simpa using UInt32.le_iff_toNat_le.mp hhigh⟩

theorem isBlank_of_isDigit (c : Char) (h : isDigit c = true) : isBlank c = false := by
  rcases Option.isSome_iff_exists.mp h with ⟨d, hd⟩
  rcases Option.map_eq_some_iff.mp hd with ⟨z, hz, _⟩
  have hmem := List.mem_of_find?_eq_some hz
  have hrange := List.find?_some hz
  simp only [Bool.and_eq_true, decide_eq_true_eq] at hrange
  have hall : ∀ z ∈ digitZeros, ∀ k : Fin 10, isBlank (Char.ofNat (z + k)) = false := by
    decide +kernel
  have hk := hall z hmem ⟨c.toNat - z, by omega⟩
  have hsum : z + (c.toNat - z) = c.toNat := by omega
  simpa only [hsum, Char.ofNat_toNat] using hk

/-- What stands around a text that neither starts nor ends with such characters is cut off. -/
theorem dropEndWhile_dropWhile_of_ends (p : Char → Bool) (before cs after : List Char)
    (hne : cs ≠ []) (hbefore : ∀ c ∈ before, p c = true) (hafter : ∀ c ∈ after, p c = true)
    (hd : ∀ c, cs.head? = some c → p c = false) (hl : ∀ c, cs.getLast? = some c → p c = false) :
    dropEndWhile p ((before ++ cs ++ after).dropWhile p) = cs := by
  have hstart : (before ++ cs ++ after).dropWhile p = cs ++ after := by
    rcases List.exists_cons_of_ne_nil hne with ⟨c, rest, rfl⟩
    have hc : ¬p c = true := by simp [hd c rfl]
    rw [List.append_assoc, List.dropWhile_append_of_pos hbefore, List.cons_append,
      List.dropWhile_cons_of_neg hc]
  have hend : dropEndWhile p (cs ++ after) = dropEndWhile p cs := by
    unfold dropEndWhile
    rw [List.reverse_append, List.dropWhile_append_of_pos
      fun a ha => hafter a (List.mem_reverse.mp ha)]
  rcases List.eq_nil_or_concat cs with hnil | ⟨front, last, rfl⟩
  · exact absurd hnil hne
  · rw [List.concat_eq_append] at hstart hend hl ⊢
    rw [hstart, hend]
    exact dropEndWhile_append_singleton p front last (hl last List.getLast?_concat)

/-- Nothing else is cut off a text. -/
theorem exists_eq_append_dropEndWhile (p : Char → Bool) (cs : List Char) :
    ∃ before after, (∀ c ∈ before, p c = true) ∧ (∀ c ∈ after, p c = true) ∧
      cs = before ++ dropEndWhile p (cs.dropWhile p) ++ after := by
  refine ⟨cs.takeWhile p, ((cs.dropWhile p).reverse.takeWhile p).reverse,
    fun c hc => List.mem_takeWhile_imp hc,
    fun c hc => List.mem_takeWhile_imp (List.mem_reverse.mp hc), ?_⟩
  have hend : dropEndWhile p (cs.dropWhile p) ++ ((cs.dropWhile p).reverse.takeWhile p).reverse
      = cs.dropWhile p := by
    unfold dropEndWhile
    rw [← List.reverse_append, List.takeWhile_append_dropWhile, List.reverse_reverse]
  rw [List.append_assoc, hend, List.takeWhile_append_dropWhile]

/-- Blanks around a text that neither starts nor ends with one are cut off. -/
theorem trim_of_blanks (before cs after : List Char) (hne : cs ≠ [])
    (hbefore : ∀ c ∈ before, isBlank c = true) (hafter : ∀ c ∈ after, isBlank c = true)
    (hd : ∀ c, cs.head? = some c → isBlank c = false)
    (hl : ∀ c, cs.getLast? = some c → isBlank c = false) :
    trim (before ++ cs ++ after) = cs :=
  dropEndWhile_dropWhile_of_ends isBlank before cs after hne hbefore hafter hd hl

/-- Nothing but blanks is cut off a text. -/
theorem exists_eq_append_trim (cs : List Char) :
    ∃ before after, (∀ c ∈ before, isBlank c = true) ∧ (∀ c ∈ after, isBlank c = true) ∧
      cs = before ++ trim cs ++ after :=
  exists_eq_append_dropEndWhile isBlank cs

end Text

theorem Number.foldDigits_eq_ofDigits (base : Nat) (ds : List Nat) :
    foldDigits base 0 ds = Nat.ofDigits base ds.reverse := by
  unfold foldDigits
  rw [Nat.ofDigits_eq_foldr, List.foldr_reverse]
  simp only [Nat.cast_id, Nat.add_comm, Nat.mul_comm]

end OpcodeForge
