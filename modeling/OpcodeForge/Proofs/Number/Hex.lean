import OpcodeForge.Failure

/-!
# Keys of Two Characters

A byte is written with exactly two digits, the sixteens before the ones. Digits of one
width compare like the numbers they stand for, so keys of bytes, compared as texts, are in
the order of the bytes.

Two characters need not be two digits. The sign of a negative number counts towards the
width, so the numbers down to minus fifteen have keys of the same width. As texts these stand
before all keys of bytes, and they ascend as the numbers descend (`hexKey_le_iff`).

## Main definitions

* `Number.byteKey`: The two lower case hexadecimal digits of a byte.
* `Number.keyRank`: The place of a key among those of two characters.
* `Number.IsByteKey`: A key of exactly two lower case hexadecimal digits.

## Theorems

* `Number.hexKey_byte`: The key of a byte is made of its two digits.
* `Number.length_byteKey`: It has two characters.
* `Number.byteKey_lt`, `Number.byteKey_inj`: Keys of bytes compare like the bytes.
* `Number.length_hexKey_iff`: Which numbers have keys of two characters.
* `Number.hexKey_le_iff`: Keys of two characters compare like their places.
* `Number.isByteKey_hexKey_iff`: Only bytes have keys of two digits.
-/

namespace OpcodeForge.Number

/-- The two lower case hexadecimal digits of a byte. -/
def byteKey (k : Fin opcodeSpace) : String :=
  String.ofList [Nat.digitChar (k.val / 16), Nat.digitChar (k.val % 16)]

/-- The place of a key among the keys with two characters. The dash stands before all digits,
    and behind it the digits of negative numbers ascend as the numbers descend. -/
def keyRank (i : Int) : Int :=
  if i < 0 then -16 - i else i

/-- A key of exactly two lower case hexadecimal digits. -/
def IsByteKey (s : String) : Prop :=
  s.length = 2 ∧ ∀ c ∈ s.toList, c ∈ "0123456789abcdef".toList

theorem hexKey_byte (k : Fin opcodeSpace) : hexKey (k.val : Int) = byteKey k := by
  have hchars : ∀ k : Fin opcodeSpace, hexKeyChars (k.val : Int)
      = [Nat.digitChar (k.val / 16), Nat.digitChar (k.val % 16)] := by decide +kernel
  unfold hexKey byteKey
  rw [hchars k]

theorem length_byteKey (k : Fin opcodeSpace) : (byteKey k).length = 2 := by
  unfold byteKey
  rw [String.length_ofList]
  rfl

theorem byteKey_lt (j k : Fin opcodeSpace) (h : j < k) : byteKey j < byteKey k := by
  have hdigits : ∀ a b : Fin 16, a < b → Nat.digitChar a < Nat.digitChar b := by decide
  have hj : j.val < 256 := j.isLt
  have hk : k.val < 256 := k.isLt
  have hlt : j.val < k.val := h
  unfold byteKey
  rw [String.lt_iff, String.toList_ofList, String.toList_ofList, List.cons_lt_cons_iff,
    List.cons_lt_cons_iff]
  by_cases hhigh : j.val / 16 = k.val / 16
  · -- The bytes differ in the ones.
    have hlow : j.val % 16 < k.val % 16 := by omega
    have hones := hdigits ⟨j.val % 16, by omega⟩ ⟨k.val % 16, by omega⟩ hlow
    exact Or.inr ⟨by rw [hhigh], Or.inl hones⟩
  · have hsixteens := hdigits ⟨j.val / 16, by omega⟩ ⟨k.val / 16, by omega⟩
      (show j.val / 16 < k.val / 16 by omega)
    exact Or.inl hsixteens

theorem byteKey_inj (j k : Fin opcodeSpace) (h : byteKey j = byteKey k) : j = k := by
  rcases Nat.lt_trichotomy j.val k.val with hlt | heq | hgt
  · have hkeys := byteKey_lt j k hlt
    rw [h] at hkeys
    exact absurd hkeys (String.lt_irrefl _)
  · exact Fin.ext heq
  · have hkeys := byteKey_lt k j hgt
    rw [h] at hkeys
    exact absurd hkeys (String.lt_irrefl _)

theorem length_hexDigits (width n : Nat) :
    (Text.hexDigits width n).length = width ↔ (Nat.toDigits 16 n).length ≤ width := by
  unfold Text.hexDigits
  simp only [List.length_append, List.length_replicate]
  omega

/-- Two characters are two digits, or the sign and one digit. -/
theorem length_hexKey_iff (i : Int) : (hexKey i).length = 2 ↔ -16 < i ∧ i < opcodeSpace := by
  unfold hexKey opcodeSpace
  rw [String.length_ofList]
  cases i with
  | ofNat n =>
      rw [hexKeyChars, length_hexDigits, Nat.length_toDigits_le_iff (by decide) (by decide),
        Int.ofNat_eq_natCast]
      omega
  | negSucc n =>
      have hlen := (length_hexDigits 1 (n + 1)).trans
        (Nat.length_toDigits_le_iff (by decide) (by decide))
      rw [hexKeyChars, List.length_cons, Int.negSucc_eq]
      omega

theorem hexKey_negative (i : Int) (hlow : -16 < i) (hneg : i < 0) :
    hexKey i = String.ofList ['-', Nat.digitChar i.natAbs] := by
  have hchars : ∀ k : Fin 16, 0 < k.val →
      hexKeyChars (-(k.val : Int)) = ['-', Nat.digitChar k] := by decide +kernel
  have hi : -(i.natAbs : Int) = i := by omega
  unfold hexKey
  rw [← hchars ⟨i.natAbs, by omega⟩ (by change 0 < i.natAbs; omega), hi]

theorem exists_byteKey (i : Int) (hpos : 0 ≤ i) (hlt : i < opcodeSpace) :
    ∃ k : Fin opcodeSpace, (k.val : Int) = i ∧ hexKey i = byteKey k := by
  have hi : (i.toNat : Int) = i := Int.toNat_of_nonneg hpos
  refine ⟨⟨i.toNat, by omega⟩, hi, ?_⟩
  rw [← hexKey_byte, hi]

/-- Keys of two characters compare like their places. -/
theorem hexKey_lt (i j : Int) (hi : -16 < i ∧ i < opcodeSpace) (hj : -16 < j ∧ j < opcodeSpace)
    (h : keyRank i < keyRank j) : hexKey i < hexKey j := by
  have hdigits : ∀ a b : Fin 16, a < b → Nat.digitChar a < Nat.digitChar b := by decide
  have hdash : ∀ a : Fin 16, '-' < Nat.digitChar a := by decide
  unfold keyRank at h
  by_cases hineg : i < 0
  · rw [if_pos hineg] at h
    rw [hexKey_negative i hi.1 hineg]
    by_cases hjneg : j < 0
    · -- Behind the two dashes the digits are those of the numbers without their signs.
      rw [if_pos hjneg] at h
      have hones := hdigits ⟨i.natAbs, by omega⟩ ⟨j.natAbs, by omega⟩
        (by change i.natAbs < j.natAbs; omega)
      rw [hexKey_negative j hj.1 hjneg, String.lt_iff, String.toList_ofList,
        String.toList_ofList, List.cons_lt_cons_iff, List.cons_lt_cons_iff]
      exact Or.inr ⟨rfl, Or.inl hones⟩
    · -- A dash stands before every digit.
      rcases exists_byteKey j (by omega) hj.2 with ⟨k, hk, hkey⟩
      have hk' : k.val < 256 := k.isLt
      rw [hkey, String.lt_iff, byteKey, String.toList_ofList, String.toList_ofList,
        List.cons_lt_cons_iff]
      exact Or.inl (hdash ⟨k.val / 16, by omega⟩)
  · rw [if_neg hineg] at h
    by_cases hjneg : j < 0
    · rw [if_pos hjneg] at h
      omega
    · rw [if_neg hjneg] at h
      rcases exists_byteKey i (by omega) hi.2 with ⟨k, hk, hkey⟩
      rcases exists_byteKey j (by omega) hj.2 with ⟨l, hl, hlkey⟩
      rw [hkey, hlkey]
      exact byteKey_lt k l (show k.val < l.val by omega)

theorem hexKey_le_iff (i j : Int) (hi : -16 < i ∧ i < opcodeSpace)
    (hj : -16 < j ∧ j < opcodeSpace) : hexKey i ≤ hexKey j ↔ keyRank i ≤ keyRank j := by
  constructor
  · exact fun h => Int.not_lt.mp fun hgt => h (hexKey_lt j i hj hi hgt)
  · intro h
    by_cases hlt : keyRank i < keyRank j
    · exact fun hgt => String.lt_irrefl _ (String.lt_trans hgt (hexKey_lt i j hi hj hlt))
    · have hij : i = j := by
        unfold keyRank at h hlt
        omega
      subst hij
      exact String.le_refl _

theorem isByteKey_hexKey_iff (i : Int) : IsByteKey (hexKey i) ↔ 0 ≤ i ∧ i < opcodeSpace := by
  unfold IsByteKey
  rw [length_hexKey_iff]
  constructor
  · -- The key of a negative number has a dash where there should be a digit.
    rintro ⟨⟨hlow, hlt⟩, hdigits⟩
    refine ⟨Int.not_lt.mp fun hneg => ?_, hlt⟩
    rw [hexKey_negative i hlow hneg, String.toList_ofList, List.forall_mem_cons] at hdigits
    exact absurd hdigits.1 (by decide)
  · rintro ⟨hpos, hlt⟩
    have hdigit : ∀ a : Fin 16, Nat.digitChar a ∈ "0123456789abcdef".toList := by decide
    rcases exists_byteKey i hpos hlt with ⟨k, hk, hkey⟩
    have hk' : k.val < 256 := k.isLt
    rw [hkey, byteKey, String.toList_ofList]
    refine ⟨⟨by omega, hlt⟩, List.forall_mem_cons.mpr ⟨hdigit ⟨k.val / 16, by omega⟩,
      List.forall_mem_singleton.mpr (hdigit ⟨k.val % 16, by omega⟩)⟩⟩

end OpcodeForge.Number
