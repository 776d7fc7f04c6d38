import OpcodeForge.Proofs.Number.Decimal
import OpcodeForge.Proofs.Number.Numeral
import OpcodeForge.Proofs.Text.Pieces
import OpcodeForge.Yaml.Construct

/-!
# Numbers Without Quotes

A plain text is an integer by its form, and is then read by rules of its own: underscores do not
count, and a zero at the start marks another base. Decimal digits without needless zeros and
hexadecimal digits behind their mark have that form and no other one, and what is read is the
number that they denote. So a number may be written without quotes as well as with them.

The number zero is the one decimal text that is read in another base than ten, which makes no
difference to it.

## Theorems

* `ofPlain_eq_int`: What has the form of an integer and starts with a digit is one.
* `ofPlain_decimal`, `ofPlain_hexadecimal`: Written numbers have the form of integers.
* `intOf_decimal`, `intOf_hexadecimal`: They are read as the numbers that they denote.
-/

namespace OpcodeForge.Yaml

/-- A text that starts with a digit is no word with a meaning of its own. -/
theorem ofPlain_eq_int (c : Char) (cs : List Char) (hc : c.isDigit = true)
    (hend : '\n' ∉ c :: cs) (hfloat : isFloatForm (c :: cs) = false)
    (hint : isIntForm (c :: cs) = true) : Tag.ofPlain (c :: cs) = .int := by
  have hform : dropFinalBreak (c :: cs) = c :: cs := by
    unfold dropFinalBreak
    rw [if_neg fun h => hend (List.mem_of_getLast? (beq_iff_eq.mp h))]
  have hword : truthWords.contains (String.ofList (c :: cs)) = false := by
    rw [List.contains_eq_mem, decide_eq_false_iff_not]
    intro hmem
    have hall : ∀ w ∈ truthWords, w.toList.head?.all (!Char.isDigit ·) = true := by decide
    have hnone := hall _ hmem
    rw [String.toList_ofList, List.head?_cons, Option.all_some, hc] at hnone
    exact absurd hnone Bool.false_ne_true
  unfold Tag.ofPlain
  simp only [hform, hword, hfloat, hint, List.isEmpty_cons, Bool.false_eq_true, if_false, if_true]

section Decimal

theorem ne_of_isDigit (c m : Char) (hc : c.isDigit = true) (hm : m.isDigit = false) : c ≠ m := by
  rintro rfl
  rw [hm] at hc
  exact absurd hc Bool.false_ne_true

/-- A text that starts with a zero only if it is one has nothing behind a zero. -/
theorem ne_zero_cons (c : Char) (cs : List Char) (hzero : c = '0' → cs = []) (m : Char)
    (rest : List Char) : c :: cs ≠ '0' :: m :: rest := by
  intro h
  rcases List.cons.inj h with ⟨hc, hcs⟩
  rw [hzero hc] at hcs
  exact absurd hcs.symm (List.cons_ne_nil m rest)

theorem splitSign_of_isDigit (c : Char) (cs : List Char) (hc : c.isDigit = true) :
    splitSign (c :: cs) = (false, c :: cs) := by
  unfold splitSign
  split
  · rename_i heq
    exact absurd (List.cons.inj heq).1 (ne_of_isDigit c _ hc (by decide))
  · rename_i heq
    exact absurd (List.cons.inj heq).1 (ne_of_isDigit c _ hc (by decide))
  · rfl

theorem dropWhile_digits (cs : List Char) (h : ∀ c ∈ cs, c.isDigit = true) :
    cs.dropWhile isDigitOrLine = [] := by
  rw [List.dropWhile_eq_nil_iff]
  intro c hc
  unfold isDigitOrLine
  rw [h c hc, Bool.true_or]

variable (c : Char) (cs : List Char) (h : ∀ d ∈ c :: cs, d.isDigit = true)

include h

/-- Digits alone are no number with a point. -/
theorem isFloatForm_digits : isFloatForm (c :: cs) = false := by
  have hc := h c List.mem_cons_self
  have hcs : cs.dropWhile isDigitOrLine = [] :=
    dropWhile_digits cs fun d hd => h d (List.mem_cons_of_mem c hd)
  unfold isFloatForm
  split
  · rename_i heq
    exact absurd (List.cons.inj heq).1 (ne_of_isDigit c _ hc (by decide))
  · rw [splitSign_of_isDigit c cs hc]
    dsimp only
    split
    · rename_i heq
      exact absurd (List.cons.inj heq).1 (ne_of_isDigit c _ hc (by decide))
    · rename_i heq
      rw [← (List.cons.inj heq).2, hcs]
      exact Bool.and_false _
    · rename_i heq
      exact absurd heq (List.cons_ne_nil c cs)

/-- Without a zero at the start they are an integer, and so is the zero. -/
theorem isIntForm_digits (hzero : c = '0' → cs = []) : isIntForm (c :: cs) = true := by
  have hc := h c List.mem_cons_self
  have hcs : cs.dropWhile isDigitOrLine = [] :=
    dropWhile_digits cs fun d hd => h d (List.mem_cons_of_mem c hd)
  unfold isIntForm
  rw [splitSign_of_isDigit c cs hc]
  dsimp only
  split
  · rename_i heq
    exact absurd heq (ne_zero_cons c cs hzero _ _)
  · rename_i heq
    exact absurd heq (ne_zero_cons c cs hzero _ _)
  · rename_i heq
    rw [← (List.cons.inj heq).2, hzero (List.cons.inj heq).1]
    rfl
  · rename_i heq
    rw [← (List.cons.inj heq).1, ← (List.cons.inj heq).2, hc, hcs]
    rfl
  · rename_i heq
    exact absurd heq (List.cons_ne_nil c cs)

end Decimal

/-- The digits of a number start with a zero for the number zero only. -/
theorem eq_nil_of_toDigits (n : Nat) : ∀ cs, Nat.toDigits 10 n = '0' :: cs → cs = [] := by
  induction n using Nat.strongRecOn with
  | ind n ih =>
      intro cs hcs
      rw [Nat.toDigits_eq_if (by decide)] at hcs
      split at hcs
      · exact (List.cons.inj hcs).2.symm
      · rename_i hlarge
        rcases List.exists_cons_of_ne_nil (Nat.toDigits_ne_nil (n := n / 10) (b := 10)) with
          ⟨c, ds, hds⟩
        rw [hds] at hcs
        have hzero : c = '0' := (List.cons.inj hcs).1
        have hnil : ds = [] := ih (n / 10) (by omega) ds (by rw [hds, hzero])
        -- What is left of the number is zero, but the number has two digits at least.
        have hquotient : n / 10 = 0 := Number.toDigits_inj _ 0 (by rw [hds, hzero, hnil]; rfl)
        omega

theorem exists_toDigits_cons (n : Nat) : ∃ c cs, Nat.toDigits 10 n = c :: cs ∧
    (∀ d ∈ c :: cs, d.isDigit = true) ∧ (c = '0' → cs = []) := by
  rcases List.exists_cons_of_ne_nil (Nat.toDigits_ne_nil (n := n) (b := 10)) with ⟨c, cs, hcs⟩
  refine ⟨c, cs, hcs, fun d hd => ?_, fun hc => eq_nil_of_toDigits n cs (hc ▸ hcs)⟩
  exact Nat.isDigit_of_mem_toDigits (by decide) (by decide) (hcs ▸ hd)

/-- The decimal text of a number has the form of an integer. -/
theorem ofPlain_decimal (n : Nat) : Tag.ofPlain (Nat.toDigits 10 n) = .int := by
  rcases exists_toDigits_cons n with ⟨c, cs, hcs, hdigits, hzero⟩
  rw [hcs]
  refine ofPlain_eq_int c cs (hdigits c List.mem_cons_self) (fun hmem => ?_)
    (isFloatForm_digits c cs hdigits) (isIntForm_digits c cs hdigits hzero)
  exact absurd (hdigits '\n' hmem) (by decide)

/-- A text that starts with a digit and has no underscore is read as it is. -/
theorem intOf_of_isDigit (c : Char) (cs : List Char) (i : Int) (hc : c.isDigit = true)
    (hline : '_' ∉ c :: cs) (hunsigned : unsignedInt (c :: cs) = .ok i) :
    intOf (c :: cs) = .ok i := by
  have hfilter : (c :: cs).filter (· ≠ '_') = c :: cs := by
    rw [List.filter_eq_self]
    intro d hd
    exact decide_eq_true fun h => hline (h ▸ hd)
  unfold intOf
  simp only [hfilter, splitSign_of_isDigit c cs hc, List.isEmpty_cons, Bool.false_eq_true,
    if_false, hunsigned]
  rfl

/-- The decimal text of a number is read as the number. -/
theorem intOf_decimal (n : Nat) (h : (Nat.toDigits 10 n).length ≤ Number.maxDigits) :
    intOf (Nat.toDigits 10 n) = .ok n := by
  have hread : Number.integer? 10 (Nat.toDigits 10 n) = some (n : Int) :=
    (Number.integer?_eq_some_iff (Or.inl rfl) _ _).mpr (Number.numeral_decimalChars n h)
  rcases exists_toDigits_cons n with ⟨c, cs, hcs, hdigits, hzero⟩
  have hnone : ∀ m, m.isDigit = false → m ∉ c :: cs :=
    fun m hm hmem => ne_of_isDigit m m (hdigits m hmem) hm rfl
  have hunsigned : unsignedInt (c :: cs) = .ok n := by
    unfold unsignedInt
    split
    · rename_i heq
      exact absurd heq (List.cons_ne_nil c cs)
    · rename_i heq
      exact absurd heq (ne_zero_cons c cs hzero _ _)
    · rename_i heq
      exact absurd heq (ne_zero_cons c cs hzero _ _)
    · -- The number is zero, which is read in base eight.
      rename_i heq
      have hc : c = '0' := (List.cons.inj heq).1
      have hn : n = 0 := Number.toDigits_inj n 0 (by rw [hcs, hc, hzero hc]; rfl)
      rw [hc, hzero hc, hn]
      rfl
    · rw [Text.pieces_of_not_mem ':' (c :: cs) (hnone ':' (by decide)), ← hcs, hread]
      rfl
  rw [hcs]
  exact intOf_of_isDigit c cs n (hdigits c List.mem_cons_self) (hnone '_' (by decide)) hunsigned

section Hexadecimal

variable (n : Nat) (digits : List Char) (h : digits.map Char.toLower = Nat.toDigits 16 n)

include h

/-- What holds for the hexadecimal digits holds for those of a number. -/
theorem forall_hexadecimal (p : Char → Bool)
    (hp : ("0123456789abcdef".toList ++ "0123456789ABCDEF".toList).all p = true) :
    ∀ c ∈ digits, p c = true := by
  intro c hc
  rcases Number.exists_isHexDigit n digits h c hc with ⟨d, hd⟩
  exact hd.all p hp

/-- Hexadecimal digits behind their mark have the form of an integer. -/
theorem ofPlain_hexadecimal : Tag.ofPlain ('0' :: 'x' :: digits) = .int := by
  have hend : '\n' ∉ '0' :: 'x' :: digits := by
    intro hmem
    have hdigit := forall_hexadecimal n digits h (· ≠ '\n') (by decide) '\n'
    simp only [List.mem_cons, Char.reduceEq, false_or] at hmem
    exact absurd (hdigit hmem) (by decide)
  -- The letter of the mark is no point and starts no groups.
  have hfloat : isFloatForm ('0' :: 'x' :: digits) = false := rfl
  have hint : isIntForm ('0' :: 'x' :: digits) = true := by
    have hfull : digits.isEmpty = false :=
      List.isEmpty_eq_false_iff.mpr (Number.hexadecimal_ne_nil n digits h)
    have hall := forall_hexadecimal n digits h (fun c => c == '_' || c.isDigit ||
      ('a' ≤ c && c ≤ 'f') || ('A' ≤ c && c ≤ 'F')) (by decide)
    change allSome _ digits = true
    unfold allSome
    rw [hfull, List.all_eq_true.mpr hall]
    rfl
  exact ofPlain_eq_int '0' ('x' :: digits) (by decide) hend hfloat hint

/-- They are read as the number. -/
theorem intOf_hexadecimal : intOf ('0' :: 'x' :: digits) = .ok n := by
  have hread : Number.integer? 16 digits = some (n : Int) := by
    rw [Number.integer?_eq_some_iff (Or.inr rfl)]
    exact Number.numeral_hexadecimal n [] digits digits (by decide) h
      (Number.inGroups_self digits (Number.hexadecimal_ne_nil n digits h))
  refine intOf_of_isDigit '0' ('x' :: digits) n (by decide) (fun hmem => ?_) ?_
  · have hdigit := forall_hexadecimal n digits h (· ≠ '_') (by decide) '_'
    simp only [List.mem_cons, Char.reduceEq, false_or] at hmem
    exact absurd (hdigit hmem) (by decide)
  · change numberOr (Number.integer? 16 digits) = .ok n
    rw [hread]
    rfl

end Hexadecimal

end OpcodeForge.Yaml
