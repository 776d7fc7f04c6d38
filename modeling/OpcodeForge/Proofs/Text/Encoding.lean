import OpcodeForge.Text.Encoding

/-!
# Encoded Texts

The bytes of a text are read as that text. Each character is followed by any bytes, so it is
read alone (`readChar_encodeChar`) and a text is read character by character. The limits on the
second byte are those that the first byte leaves: where the first byte is the least or the
greatest of its length, or the one before the surrogates, not all numbers are characters.

## Theorems

* `readTail_continuation`: A continuation byte gives its six bits back.
* `leadShape?_two`, `leadShape?_three`, `leadShape?_four`: What a first byte asks for.
* `readChar_encodeChar`: A character is read as it was written, whatever follows.
* `decode_encode`: A text is read as it was written.
-/

namespace OpcodeForge.Text

theorem toNat_toUInt8 (n : Nat) (h : n < 256) : n.toUInt8.toNat = n := by
  change n % 256 = n
  exact Nat.mod_eq_of_lt h

/-- A continuation byte within its limits gives its six bits back. -/
theorem readTail_continuation (low high bits count x : Nat) (rest : List UInt8) (hx : x < 64)
    (hlow : low ≤ 0x80 + x) (hhigh : 0x80 + x ≤ high) :
    readTail low high bits (count + 1) ((0x80 + x).toUInt8 :: rest)
      = readTail 0x80 0xBF (bits * 64 + x) count rest := by
  have hbyte : (0x80 + x).toUInt8.toNat = 0x80 + x := toNat_toUInt8 _ (by omega)
  have hmod : (0x80 + x) % 64 = x := by omega
  have hwithin : (decide (low ≤ 0x80 + x) && decide (0x80 + x ≤ high)) = true := by
    simp only [hlow, hhigh, decide_true, Bool.and_self]
  change (if (decide (low ≤ (0x80 + x).toUInt8.toNat) && decide ((0x80 + x).toUInt8.toNat ≤ high))
      = true then readTail 0x80 0xBF (bits * 64 + (0x80 + x).toUInt8.toNat % 64) count rest
      else .error .invalidContinuation) = _
  rw [hbyte, if_pos hwithin, hmod]

/-- The numbers of characters leave out the surrogates. -/
theorem toNat_valid (c : Char) : c.toNat < 0xD800 ∨ 0xDFFF < c.toNat ∧ c.toNat < 0x110000 :=
  c.valid

/-- A first byte tells how many bytes follow it and starts with its own bits. -/
theorem readChar_lead (b low high count n : Nat) (more rest : List UInt8) (hleast : 0x80 ≤ b)
    (hbyte : b < 256) (hshape : leadShape? b = some (low, high, count))
    (htail : readTail low high (leadBits b count) count more = .ok (n, rest)) :
    readChar b.toUInt8 more = .ok (Char.ofNat n, count + 1, rest) := by
  unfold readChar
  rw [toNat_toUInt8 b hbyte, if_neg (by omega)]
  simp only [hshape, htail]
  rfl

theorem leadShape?_two (n : Nat) (hleast : 0x80 ≤ n) (hlt : n < 0x800) :
    leadShape? (0xC0 + n / 64) = some (0x80, 0xBF, 1) := by
  unfold leadShape?
  rw [if_neg (by omega), if_pos (by omega)]

/-- The second of three bytes is within the limits that the first one sets. -/
theorem leadShape?_three (n : Nat) (hleast : 0x800 ≤ n) (hlt : n < 0x10000)
    (hvalid : n < 0xD800 ∨ 0xDFFF < n) :
    ∃ low high, leadShape? (0xE0 + n / 4096) = some (low, high, 2) ∧
      low ≤ 0x80 + n / 64 % 64 ∧ 0x80 + n / 64 % 64 ≤ high := by
  unfold leadShape?
  rw [if_neg (by omega), if_neg (by omega)]
  simp only [beq_iff_eq]
  by_cases hfirst : 0xE0 + n / 4096 = 0xE0
  · exact ⟨0xA0, 0xBF, by rw [if_pos hfirst], by omega, by omega⟩
  · rw [if_neg hfirst]
    by_cases hsurrogate : 0xE0 + n / 4096 = 0xED
    · exact ⟨0x80, 0x9F, by rw [if_pos hsurrogate], by omega, by omega⟩
    · exact ⟨0x80, 0xBF, by rw [if_neg hsurrogate, if_pos (by omega)], by omega, by omega⟩

/-- The second of four bytes is within the limits that the first one sets. -/
theorem leadShape?_four (n : Nat) (hleast : 0x10000 ≤ n) (hlt : n < 0x110000) :
    ∃ low high, leadShape? (0xF0 + n / 262144) = some (low, high, 3) ∧
      low ≤ 0x80 + n / 4096 % 64 ∧ 0x80 + n / 4096 % 64 ≤ high := by
  unfold leadShape?
  rw [if_neg (by omega), if_neg (by omega)]
  simp only [beq_iff_eq]
  rw [if_neg (by omega), if_neg (by omega), if_neg (by omega)]
  by_cases hfirst : 0xF0 + n / 262144 = 0xF0
  · exact ⟨0x90, 0xBF, by rw [if_pos hfirst], by omega, by omega⟩
  · rw [if_neg hfirst]
    by_cases hmiddle : 0xF0 + n / 262144 < 0xF4
    · exact ⟨0x80, 0xBF, by rw [if_pos hmiddle], by omega, by omega⟩
    · exact ⟨0x80, 0x8F, by rw [if_neg hmiddle, if_pos (by omega)], by omega, by omega⟩

/-- A character is read as it was written, and what follows is left. -/
theorem readChar_encodeChar (c : Char) (rest : List UInt8) :
    ∃ b more width, encodeChar c ++ rest = b :: more ∧ readChar b more = .ok (c, width, rest) := by
  have hvalid := toNat_valid c
  have hback : Char.ofNat c.toNat = c := Char.ofNat_toNat c
  unfold encodeChar
  simp only []
  generalize c.toNat = n at hvalid hback
  by_cases h1 : n < 0x80
  · refine ⟨n.toUInt8, rest, 1, by rw [if_pos h1]; rfl, ?_⟩
    unfold readChar
    rw [toNat_toUInt8 n (by omega), if_pos h1, hback]
  · rw [if_neg h1]
    by_cases h2 : n < 0x800
    · rw [if_pos h2]
      refine ⟨(0xC0 + n / 64).toUInt8, (0x80 + n % 64).toUInt8 :: rest, 2, rfl, ?_⟩
      have hbits : leadBits (0xC0 + n / 64) 1 = n / 64 := by
        change (0xC0 + n / 64) % 32 = n / 64
        omega
      rw [← hback]
      refine readChar_lead _ _ _ _ n _ rest (by omega) (by omega)
        (leadShape?_two n (by omega) h2) ?_
      rw [hbits,
        readTail_continuation _ _ _ _ (n % 64) rest (by omega) (by omega) (by omega),
        show n / 64 * 64 + n % 64 = n by omega]
      rfl
    · rw [if_neg h2]
      by_cases h3 : n < 0x10000
      · rw [if_pos h3]
        refine ⟨(0xE0 + n / 4096).toUInt8, (0x80 + n / 64 % 64).toUInt8 ::
          (0x80 + n % 64).toUInt8 :: rest, 3, rfl, ?_⟩
        rcases leadShape?_three n (by omega) h3 (by omega) with ⟨low, high, hshape, hlow, hhigh⟩
        have hbits : leadBits (0xE0 + n / 4096) 2 = n / 4096 := by
          change (0xE0 + n / 4096) % 16 = n / 4096
          omega
        rw [← hback]
        refine readChar_lead _ low high _ n _ rest (by omega) (by omega) hshape ?_
        rw [hbits,
          readTail_continuation _ _ _ _ (n / 64 % 64) _ (by omega) hlow hhigh,
          readTail_continuation _ _ _ _ (n % 64) rest (by omega) (by omega) (by omega),
          show (n / 4096 * 64 + n / 64 % 64) * 64 + n % 64 = n by omega]
        rfl
      · rw [if_neg h3]
        refine ⟨(0xF0 + n / 262144).toUInt8, (0x80 + n / 4096 % 64).toUInt8 ::
          (0x80 + n / 64 % 64).toUInt8 :: (0x80 + n % 64).toUInt8 :: rest, 4, rfl, ?_⟩
        rcases leadShape?_four n (by omega) (by omega) with ⟨low, high, hshape, hlow, hhigh⟩
        have hbits : leadBits (0xF0 + n / 262144) 3 = n / 262144 := by
          change (0xF0 + n / 262144) % 8 = n / 262144
          omega
        rw [← hback]
        refine readChar_lead _ low high _ n _ rest (by omega) (by omega) hshape ?_
        rw [hbits,
          readTail_continuation _ _ _ _ (n / 4096 % 64) _ (by omega) hlow hhigh,
          readTail_continuation _ _ _ _ (n / 64 % 64) _ (by omega) (by omega) (by omega),
          readTail_continuation _ _ _ _ (n % 64) rest (by omega) (by omega) (by omega),
          show ((n / 262144 * 64 + n / 4096 % 64) * 64 + n / 64 % 64) * 64 + n % 64 = n by omega]
        rfl

theorem decodeFrom_encode (cs : List Char) :
    ∀ fuel index, cs.length ≤ fuel → decodeFrom fuel index (cs.flatMap encodeChar) = .ok cs := by
  induction cs with
  | nil =>
      intro fuel index _
      cases fuel <;> rfl
  | cons c rest ih =>
      intro fuel index hfuel
      rcases fuel with _ | fuel
      · exact absurd hfuel (by simp)
      · rcases readChar_encodeChar c (rest.flatMap encodeChar) with
          ⟨b, more, width, hbytes, hread⟩
        rw [List.flatMap_cons, hbytes]
        unfold decodeFrom
        simp only [hread]
        rw [ih fuel _ (by simpa using hfuel)]
        rfl

theorem length_le_encode (cs : List Char) : cs.length ≤ (cs.flatMap encodeChar).length := by
  induction cs with
  | nil => exact Nat.le_refl 0
  | cons c rest ih =>
      have hc : 1 ≤ (encodeChar c).length := by
        unfold encodeChar
        simp only []
        split
        · exact Nat.le_refl 1
        · split
          · exact Nat.le_succ 1
          · split <;> simp
      rw [List.flatMap_cons, List.length_append, List.length_cons]
      omega

/-- A text is read as it was written. -/
theorem decode_encode (s : String) : decode (encode s) = .ok s.toList :=
  decodeFrom_encode s.toList _ 0 (length_le_encode s.toList)

end OpcodeForge.Text
