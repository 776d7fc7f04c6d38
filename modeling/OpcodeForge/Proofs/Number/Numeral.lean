import OpcodeForge.Proofs.Text.Digit

/-!
# The Grammar of Integers

An integer in text form is read from both ends: blanks are cut off, then a sign is taken, then
the mark of the base, and what is left must be digits. `Numeral` puts these parts together
again. A text has the form for one integer at most, since no part can be taken for another: a
blank is no sign, a sign is no digit, and the letter of the mark is no digit of base sixteen.

An underscore stands between two digits, or right behind the mark. It does not count as a digit.

## Main definitions

* `IsDigitIn`: A digit in a base and its worth.
* `Spelled`: A row of digits with single underscores between them.
* `InGroups`: Digits with single underscores added between them.
* `Numeral`: The texts for an integer in base ten or sixteen.
* `signed?`: What is read between the blanks.

## Theorems

* `digitIn?_eq_some_iff`, `digits?_eq_some_iff`: Digits are read as they are spelled.
* `dropBaseMark_append`: The mark of the base is cut off.
* `natural?_eq_some_iff`, `signed?_eq_some_iff`: What is read without and with a sign.
* `integer?_eq_some_iff`: A text is read as the integer for which it is a numeral.
* `exists_toDigits_eq`: The digits of a number.
* `numeral_decimalChars`: The decimal text of an integer is a numeral for it.
* `numeral_hexadecimal`: So are hexadecimal digits of either case, in groups.
-/

namespace OpcodeForge.Number

/-- A digit in a base: a decimal digit of some script, or an ASCII letter in either case. -/
def IsDigitIn (base : Nat) (c : Char) (d : Nat) : Prop :=
  d < base ∧ (Text.IsDecimalDigit c d ∨ Text.IsHexDigit c d)

/-- Digits with single underscores between them, and what the digits are worth. -/
inductive Spelled (base : Nat) : List Char → List Nat → Prop
  | last (c : Char) (d : Nat) (hd : IsDigitIn base c d) : Spelled base [c] [d]
  | next (c : Char) (d : Nat) (cs : List Char) (ds : List Nat) (hd : IsDigitIn base c d)
      (h : Spelled base cs ds) : Spelled base (c :: cs) (d :: ds)
  | line (c : Char) (d : Nat) (cs : List Char) (ds : List Nat) (hd : IsDigitIn base c d)
      (h : Spelled base cs ds) : Spelled base (c :: '_' :: cs) (d :: ds)

/-- Digits, and the same digits with single underscores between some of them. -/
inductive InGroups : List Char → List Char → Prop
  | last (c : Char) : InGroups [c] [c]
  | next (c : Char) (digits cs : List Char) (h : InGroups digits cs) :
      InGroups (c :: digits) (c :: cs)
  | line (c : Char) (digits cs : List Char) (h : InGroups digits cs) :
      InGroups (c :: digits) (c :: '_' :: cs)

/-- The marks of a base. That of base sixteen may be left out, and may have an underscore behind
    it. -/
def marks (base : Nat) : List (List Char) :=
  if base = 16 then [[], ['0', 'x'], ['0', 'X'], ['0', 'x', '_'], ['0', 'X', '_']] else [[]]

/-- The signs and what they multiply by. -/
def signs : List (List Char × Int) :=
  [([], 1), (['+'], 1), (['-'], -1)]

/-- The texts for an integer in base ten or sixteen: blanks around it, a sign, the mark of the
    base, and its digits, of which there is a greatest number in base ten. -/
inductive Numeral (base : Nat) : List Char → Int → Prop
  | parts (before after sign mark body : List Char) (unit : Int) (ds : List Nat)
      (hbefore : ∀ c ∈ before, isNumeralBlank c = true)
      (hafter : ∀ c ∈ after, isNumeralBlank c = true) (hsign : (sign, unit) ∈ signs)
      (hmark : mark ∈ marks base) (hbody : Spelled base body ds)
      (hlen : base = 10 → ds.length ≤ maxDigits) :
      Numeral base (before ++ (sign ++ (mark ++ body)) ++ after)
        (unit * Nat.ofDigits base ds.reverse)

/-- The integer that a text without blanks denotes. -/
def signed? (base : Nat) : List Char → Option Int
  | '-' :: rest => (natural? base rest).map fun n : Nat => -(n : Int)
  | '+' :: rest => (natural? base rest).map Int.ofNat
  | cs => (natural? base cs).map Int.ofNat

theorem integer?_eq_signed? (base : Nat) (cs : List Char) : integer? base cs =
    signed? base (Text.dropEndWhile isNumeralBlank (cs.dropWhile isNumeralBlank)) := by
  unfold integer?
  generalize Text.dropEndWhile isNumeralBlank (cs.dropWhile isNumeralBlank) = body
  split
  · rename_i rest
    rw [signed?]
    cases natural? base rest with
    | none => rfl
    | some n => rfl
  · rw [signed?]
  · rename_i hminus hplus
    rw [signed?.eq_3 base body hminus hplus]

theorem letterValue?_of_not_ascii (c : Char) (h : 128 ≤ c.toNat) :
    letterValue? c = Text.digitValue? c := by
  have hval : c.val.toNat = c.toNat := rfl
  unfold letterValue?
  simp only [Bool.and_eq_true, decide_eq_true_eq, Char.le_def, UInt32.le_iff_toNat_le]
  rw [if_neg (by simp; omega), if_neg (by simp; omega)]

section Digits

variable {base : Nat} (hbase : base ≤ 16)

include hbase

/-- Digits are found with their worth. -/
theorem digitIn?_eq_some_iff (c : Char) (d : Nat) :
    digitIn? base c = some d ↔ IsDigitIn base c d := by
  unfold digitIn? IsDigitIn
  rw [Option.filter_eq_some_iff, decide_eq_true_eq, and_comm]
  refine and_congr_right fun hd => ?_
  by_cases hascii : c.toNat < 128
  · have hall : ∀ (k : Fin 128) (d : Fin 16), letterValue? (Char.ofNat k) = some d.val ↔
        Text.digitValue? (Char.ofNat k) = some d.val ∨ Text.IsHexDigit (Char.ofNat k) d := by
      decide +kernel
    have hc := hall ⟨c.toNat, hascii⟩ ⟨d, by omega⟩
    rwa [Char.ofNat_toNat, Text.digitValue?_eq_some_iff] at hc
  · -- Beyond ASCII there are no letters among the digits.
    have hletter : ¬Text.IsHexDigit c d := by
      intro hhex
      exact hascii (of_decide_eq_true (Text.IsHexDigit.all hhex (·.toNat < 128) (by decide)))
    rw [letterValue?_of_not_ascii c (by omega), Text.digitValue?_eq_some_iff,
      or_iff_left hletter]

theorem not_isDigitIn_of_letterValue? (c : Char) (h : (letterValue? c).all (16 ≤ ·) = true)
    (d : Nat) : ¬IsDigitIn base c d := by
  rw [← digitIn?_eq_some_iff hbase]
  unfold digitIn?
  intro hd
  rcases Option.filter_eq_some_iff.mp hd with ⟨hvalue, hlt⟩
  rw [hvalue, Option.all_some, decide_eq_true_eq] at h
  rw [decide_eq_true_eq] at hlt
  omega

theorem bind_digits?_eq_some_iff (c : Char) (rest : List Char) (ds : List Nat) :
    (do
      let d ← digitIn? base c
      return d :: (← digits? base rest)) = some ds ↔
        ∃ d es, IsDigitIn base c d ∧ digits? base rest = some es ∧ d :: es = ds := by
  simp only [Option.bind_eq_bind, Option.bind_eq_some_iff, digitIn?_eq_some_iff hbase,
    Option.pure_def, Option.some.injEq]
  constructor
  · rintro ⟨d, hd, es, hes, h⟩
    exact ⟨d, es, hd, hes, h⟩
  · rintro ⟨d, es, hd, hes, h⟩
    exact ⟨d, hd, es, hes, h⟩

/-- Digits do not start with an underscore. -/
theorem not_spelled_line (cs : List Char) (ds : List Nat) : ¬Spelled base ('_' :: cs) ds := by
  have hline := not_isDigitIn_of_letterValue? hbase '_' (by decide)
  intro h
  cases h with
  | last _ d hd => exact hline d hd
  | next _ d _ _ hd _ => exact hline d hd
  | line _ d _ _ hd _ => exact hline d hd

/-- Digits are read as they are spelled. -/
theorem digits?_eq_some_iff (cs : List Char) :
    ∀ ds, digits? base cs = some ds ↔ Spelled base cs ds := by
  induction cs using digits?.induct with
  | case1 =>
      intro ds
      unfold digits?
      refine iff_of_false (by simp only [reduceCtorEq, not_false_eq_true]) fun h => ?_
      cases h
  | case2 c =>
      intro ds
      unfold digits?
      rw [Option.map_eq_some_iff]
      constructor
      · rintro ⟨d, hd, rfl⟩
        exact .last c d ((digitIn?_eq_some_iff hbase c d).mp hd)
      · intro h
        cases h with
        | last _ d hd => exact ⟨d, (digitIn?_eq_some_iff hbase c d).mpr hd, rfl⟩
        | next _ d _ ds hd h => cases h
  | case3 c rest ih =>
      intro ds
      rw [digits?, bind_digits?_eq_some_iff hbase]
      constructor
      · rintro ⟨d, es, hd, hes, rfl⟩
        exact .line c d rest es hd ((ih es).mp hes)
      · intro h
        cases h with
        | next _ d _ es hd h => exact absurd h (not_spelled_line hbase rest es)
        | line _ d _ es hd h => exact ⟨d, es, hd, (ih es).mpr h, rfl⟩
  | case4 c rest hne hnotline ih =>
      intro ds
      rw [digits?.eq_4 base c rest hne hnotline, bind_digits?_eq_some_iff hbase]
      constructor
      · rintro ⟨d, es, hd, hes, rfl⟩
        exact .next c d rest es hd ((ih es).mp hes)
      · intro h
        cases h with
        | last _ d hd => exact absurd rfl hne
        | next _ d _ es hd h => exact ⟨d, es, hd, (ih es).mpr h, rfl⟩
        | line _ d rest' es hd h => exact absurd rfl (hnotline rest')

end Digits

/-- A row of digits starts and ends with one, whatever stands between them. -/
theorem Spelled.ends {base : Nat} {cs : List Char} {ds : List Nat} (h : Spelled base cs ds) :
    cs ≠ [] ∧ (∀ c, cs.head? = some c → ∃ d, IsDigitIn base c d) ∧
      ∀ c, cs.getLast? = some c → ∃ d, IsDigitIn base c d := by
  have hfirst : ∀ c d, IsDigitIn base c d → ∀ cs c', (c :: cs).head? = some c' →
      ∃ d, IsDigitIn base c' d := by
    intro c d hd cs c' hc
    exact ⟨d, Option.some.inj hc ▸ hd⟩
  induction h with
  | last c d hd =>
      exact ⟨List.cons_ne_nil _ _, hfirst c d hd [], fun c' hc => ⟨d, Option.some.inj hc ▸ hd⟩⟩
  | next c d cs ds hd _ ih =>
      refine ⟨List.cons_ne_nil _ _, hfirst c d hd cs, fun c' hc => ih.2.2 c' ?_⟩
      rwa [List.getLast?_cons_of_ne_nil ih.1] at hc
  | line c d cs ds hd _ ih =>
      refine ⟨List.cons_ne_nil _ _, hfirst c d hd _, fun c' hc => ih.2.2 c' ?_⟩
      rwa [List.getLast?_cons_of_ne_nil (List.cons_ne_nil _ _),
        List.getLast?_cons_of_ne_nil ih.1] at hc

theorem IsDigitIn.isNumeralBlank_eq_false {base : Nat} {c : Char} {d : Nat}
    (h : IsDigitIn base c d) : isNumeralBlank c = false := by
  unfold isNumeralBlank
  rw [Bool.and_eq_false_iff]
  refine Or.inl ?_
  rcases h.2 with hdecimal | hhex
  · refine Text.isBlank_of_isDigit c ?_
    unfold Text.isDigit
    rw [(Text.digitValue?_eq_some_iff c d).mpr hdecimal, Option.isSome_some]
  · exact (Bool.not_eq_true' _).mp (Text.IsHexDigit.all hhex (!Text.isBlank ·) (by decide))

/-- Only ASCII letters have another case here. -/
theorem toLower_of_not_ascii (c : Char) (h : 128 ≤ c.toNat) : c.toLower = c := by
  unfold Char.toLower
  rw [dif_neg]
  rintro ⟨_, hhigh⟩
  have hval : c.val.toNat = c.toNat := rfl
  have hz := UInt32.le_iff_toNat_le.mp hhigh
  have hlast : 'Z'.val.toNat = 90 := rfl
  omega

/-- The letters of the mark in the two cases. -/
theorem eq_of_toLower_eq_x (c : Char) (h : c.toLower = 'x') : c = 'x' ∨ c = 'X' := by
  by_cases hascii : c.toNat < 128
  · have hall : ∀ k : Fin 128, (Char.ofNat k).toLower = 'x' →
        Char.ofNat k = 'x' ∨ Char.ofNat k = 'X' := by decide
    have hc := hall ⟨c.toNat, hascii⟩
    rw [Char.ofNat_toNat] at hc
    exact hc h
  · rw [toLower_of_not_ascii c (by omega)] at h
    exact Or.inl h

/-- The digits of both cases are worth the same. -/
theorem isHexDigit_of_toLower_eq (c : Char) (d : Nat) (hd : d < 16)
    (h : c.toLower = Nat.digitChar d) : Text.IsHexDigit c d := by
  have hdigit : ∀ k : Fin 16, (Nat.digitChar k).toNat < 128 := by decide
  by_cases hascii : c.toNat < 128
  · have hall : ∀ (k : Fin 128) (d : Fin 16), (Char.ofNat k).toLower = Nat.digitChar d →
        Text.IsHexDigit (Char.ofNat k) d := by
      decide +kernel
    have hc := hall ⟨c.toNat, hascii⟩ ⟨d, hd⟩
    rw [Char.ofNat_toNat] at hc
    exact hc h
  · rw [toLower_of_not_ascii c (by omega)] at h
    have hsmall : (Nat.digitChar d).toNat < 128 := hdigit ⟨d, hd⟩
    rw [← h] at hsmall
    omega

theorem baseMark?_ten : baseMark? 10 = none := rfl

theorem baseMark?_sixteen : baseMark? 16 = some 'x' := rfl

/-- A text is left as it is if its second character is no mark. -/
theorem dropBaseMark_of_second (base : Nat) (cs : List Char)
    (h : ∀ m rest, cs = '0' :: m :: rest → baseMark? base ≠ some m.toLower) :
    dropBaseMark base cs = cs := by
  unfold dropBaseMark
  split
  · rename_i m rest
    rw [if_neg fun hm => h m rest rfl (beq_iff_eq.mp hm)]
  · rfl

section Marks

variable {base : Nat} (hbase : base = 10 ∨ base = 16)

include hbase

/-- The mark of the base is cut off. -/
theorem dropBaseMark_append (mark body : List Char) (ds : List Nat) (hmark : mark ∈ marks base)
    (hbody : Spelled base body ds) : dropBaseMark base (mark ++ body) = body := by
  have hle : base ≤ 16 := by omega
  have hline : ∀ cs, body ≠ '_' :: cs := by
    rintro cs rfl
    exact not_spelled_line hle cs ds hbody
  rcases hbase with rfl | rfl
  · rw [List.mem_singleton.mp hmark, List.nil_append]
    exact dropBaseMark_of_second 10 body fun m _ _ h => absurd h (by
      rw [baseMark?_ten]
      simp only [reduceCtorEq, not_false_eq_true])
  · have hmarked : ∀ m, baseMark? 16 = some m.toLower →
        dropBaseMark 16 ('0' :: m :: body) = body := by
      intro m hm
      unfold dropBaseMark
      simp only [hm, BEq.rfl, if_true]
    simp only [marks, if_true, List.mem_cons, List.not_mem_nil, or_false] at hmark
    rcases hmark with rfl | rfl | rfl | rfl | rfl
    · refine dropBaseMark_of_second 16 body ?_
      rintro m rest rfl hm
      -- The letter of the mark is neither a digit nor an underscore.
      have hletter : m = 'x' ∨ m = 'X' := eq_of_toLower_eq_x m (by
        rw [baseMark?_sixteen, Option.some.injEq] at hm
        exact hm.symm)
      have hdigit : ∀ d, ¬IsDigitIn 16 m d :=
        not_isDigitIn_of_letterValue? hle m (by rcases hletter with rfl | rfl <;> decide)
      cases hbody with
      | next _ d _ es hd h =>
          rcases h.ends.2.1 m rfl with ⟨d, hd⟩
          exact hdigit d hd
      | line _ d rest es hd h => rcases hletter with h | h <;> exact absurd h (by decide)
    · exact hmarked 'x' (by decide)
    · exact hmarked 'X' (by decide)
    · rfl
    · rfl

/-- Nothing else is cut off. -/
theorem exists_eq_append_dropBaseMark (cs : List Char) :
    ∃ mark ∈ marks base, cs = mark ++ dropBaseMark base cs := by
  have hnil : [] ∈ marks base := by
    rcases hbase with rfl | rfl <;> decide
  unfold dropBaseMark
  split
  · rename_i m rest
    split
    · rename_i hmark
      have hx : baseMark? base = some m.toLower := beq_iff_eq.mp hmark
      rcases hbase with rfl | rfl
      · rw [baseMark?_ten] at hx
        exact absurd hx (by simp only [reduceCtorEq, not_false_eq_true])
      · rw [baseMark?_sixteen, Option.some.injEq] at hx
        rcases eq_of_toLower_eq_x m hx.symm with rfl | rfl
        · split
          · exact ⟨['0', 'x', '_'], by decide, rfl⟩
          · exact ⟨['0', 'x'], by decide, rfl⟩
        · split
          · exact ⟨['0', 'X', '_'], by decide, rfl⟩
          · exact ⟨['0', 'X'], by decide, rfl⟩
    · exact ⟨[], hnil, rfl⟩
  · exact ⟨[], hnil, rfl⟩

/-- What is read without a sign. -/
theorem natural?_eq_some_iff (cs : List Char) (n : Nat) : natural? base cs = some n ↔
    ∃ mark body ds, mark ∈ marks base ∧ cs = mark ++ body ∧ Spelled base body ds ∧
      (base = 10 → ds.length ≤ maxDigits) ∧ Nat.ofDigits base ds.reverse = n := by
  have hle : base ≤ 16 := by omega
  have hlen : ∀ ds : List Nat, (base == 10 && maxDigits < ds.length) = true ↔
      ¬(base = 10 → ds.length ≤ maxDigits) := by
    intro ds
    simp only [Bool.and_eq_true, beq_iff_eq, decide_eq_true_eq, Classical.not_imp, Nat.not_le]
  unfold natural?
  constructor
  · intro h
    rcases exists_eq_append_dropBaseMark hbase cs with ⟨mark, hmark, hcs⟩
    split at h
    · exact absurd h (by simp only [reduceCtorEq, not_false_eq_true])
    · rename_i ds hds
      split at h
      · exact absurd h (by simp only [reduceCtorEq, not_false_eq_true])
      · rename_i hfew
        rw [hlen, not_not] at hfew
        rw [foldDigits_eq_ofDigits, Option.some.injEq] at h
        exact ⟨mark, _, ds, hmark, hcs, (digits?_eq_some_iff hle _ ds).mp hds, hfew, h⟩
  · rintro ⟨mark, body, ds, hmark, rfl, hbody, hfew, rfl⟩
    rw [dropBaseMark_append hbase mark body ds hmark hbody,
      (digits?_eq_some_iff hle body ds).mpr hbody]
    dsimp only
    rw [if_neg (by rwa [hlen, not_not]), foldDigits_eq_ofDigits]

/-- The first character of the mark and the digits is a digit. -/
theorem isDigitIn_of_head?_mark (mark body : List Char) (ds : List Nat)
    (hmark : mark ∈ marks base) (hbody : Spelled base body ds) (c : Char)
    (hc : (mark ++ body).head? = some c) : ∃ d, IsDigitIn base c d := by
  have hle : base ≤ 16 := by omega
  have hzero : ∀ m ∈ marks base, m = [] ∨ m.head? = some '0' := by
    rcases hbase with rfl | rfl <;> decide
  rcases hzero mark hmark with rfl | hhead
  · exact hbody.ends.2.1 c hc
  · rw [List.head?_append, hhead, Option.some_or, Option.some.injEq] at hc
    subst hc
    exact ⟨0, by omega, Or.inr (by decide)⟩

/-- A text with a sign is read as its sign and the rest say. -/
theorem signed?_eq_some_iff (cs : List Char) (i : Int) : signed? base cs = some i ↔
    ∃ sign mark body unit ds, (sign, unit) ∈ signs ∧ mark ∈ marks base ∧
      cs = sign ++ (mark ++ body) ∧ Spelled base body ds ∧
      (base = 10 → ds.length ≤ maxDigits) ∧ unit * (Nat.ofDigits base ds.reverse : Nat) = i := by
  have hle : base ≤ 16 := by omega
  constructor
  · intro h
    unfold signed? at h
    split at h
    all_goals
      rcases Option.map_eq_some_iff.mp h with ⟨n, hn, rfl⟩
      rcases (natural?_eq_some_iff hbase _ n).mp hn with ⟨mark, body, ds, hmark, rfl, hds⟩
    · exact ⟨['-'], mark, body, -1, ds, by decide, hmark, rfl, hds.1, hds.2.1,
        by rw [hds.2.2, Int.neg_one_mul]⟩
    · exact ⟨['+'], mark, body, 1, ds, by decide, hmark, rfl, hds.1, hds.2.1,
        by rw [hds.2.2, Int.one_mul]; rfl⟩
    · exact ⟨[], mark, body, 1, ds, by decide, hmark, rfl, hds.1, hds.2.1,
        by rw [hds.2.2, Int.one_mul]; rfl⟩
  · rintro ⟨sign, mark, body, unit, ds, hsign, hmark, rfl, hbody, hlen, rfl⟩
    have hread : natural? base (mark ++ body) = some (Nat.ofDigits base ds.reverse) :=
      (natural?_eq_some_iff hbase _ _).mpr ⟨mark, body, ds, hmark, rfl, hbody, hlen, rfl⟩
    have hdigit := isDigitIn_of_head?_mark hbase mark body ds hmark hbody
    simp only [signs, List.mem_cons, List.not_mem_nil, or_false, Prod.mk.injEq] at hsign
    rcases hsign with ⟨rfl, rfl⟩ | ⟨rfl, rfl⟩ | ⟨rfl, rfl⟩
    · rw [List.nil_append]
      unfold signed?
      split
      · rename_i rest hcs
        rcases hdigit '-' (by rw [hcs, List.head?_cons]) with ⟨d, hd⟩
        exact absurd hd (not_isDigitIn_of_letterValue? hle '-' (by decide) d)
      · rename_i rest hcs
        rcases hdigit '+' (by rw [hcs, List.head?_cons]) with ⟨d, hd⟩
        exact absurd hd (not_isDigitIn_of_letterValue? hle '+' (by decide) d)
      · rw [hread, Option.map_some, Int.one_mul]
        rfl
    · rw [List.singleton_append, signed?, hread, Option.map_some, Int.one_mul]
      rfl
    · rw [List.singleton_append, signed?, hread, Option.map_some, Int.neg_one_mul]

/-- A text is read as the integer for which it is a numeral, and no other text is read. -/
theorem integer?_eq_some_iff (cs : List Char) (i : Int) :
    integer? base cs = some i ↔ Numeral base cs i := by
  rw [integer?_eq_signed?, signed?_eq_some_iff hbase]
  constructor
  · rintro ⟨sign, mark, body, unit, ds, hsign, hmark, hcs, hbody, hlen, rfl⟩
    rcases Text.exists_eq_append_dropEndWhile isNumeralBlank cs with
      ⟨before, after, hbefore, hafter, happ⟩
    rw [happ, hcs]
    exact .parts before after sign mark body unit ds hbefore hafter hsign hmark hbody hlen
  · rintro ⟨before, after, sign, mark, body, unit, ds, hbefore, hafter, hsign, hmark, hbody, hlen⟩
    refine ⟨sign, mark, body, unit, ds, hsign, hmark, ?_, hbody, hlen, rfl⟩
    have hne : mark ++ body ≠ [] := fun h => hbody.ends.1 (List.append_eq_nil_iff.mp h).2
    refine Text.dropEndWhile_dropWhile_of_ends isNumeralBlank before _ after ?_ hbefore hafter
      ?_ ?_
    · exact fun h => hne (List.append_eq_nil_iff.mp h).2
    · intro c hc
      have hsigns : ∀ s ∈ signs, s.1.all (!isNumeralBlank ·) = true := by decide
      rw [List.head?_append, Option.or_eq_some_iff] at hc
      rcases hc with hc | ⟨_, hc⟩
      · exact (Bool.not_eq_true' _).mp
          (List.all_eq_true.mp (hsigns (sign, unit) hsign) c (List.mem_of_head? hc))
      · rcases isDigitIn_of_head?_mark hbase mark body ds hmark hbody c hc with ⟨d, hd⟩
        exact hd.isNumeralBlank_eq_false
    · intro c hc
      have hlast : body.getLast? = some c := by
        rw [List.getLast?_append, List.getLast?_append,
          List.getLast?_eq_some_getLast hbody.ends.1, Option.some_or, Option.some_or] at hc
        rw [List.getLast?_eq_some_getLast hbody.ends.1, hc]
      rcases hbody.ends.2.2 c hlast with ⟨d, hd⟩
      exact hd.isNumeralBlank_eq_false

end Marks

/-- The digits of a number in a base, the ones last. -/
theorem exists_toDigits_eq (base : Nat) (hbase : 1 < base) (n : Nat) :
    ∃ ds, Nat.toDigits base n = ds.map Nat.digitChar ∧ (∀ d ∈ ds, d < base) ∧ ds ≠ [] ∧
      Nat.ofDigits base ds.reverse = n := by
  induction n using Nat.strongRecOn with
  | ind n ih =>
      by_cases hn : n < base
      · refine ⟨[n], ?_, by simpa using hn, List.cons_ne_nil _ _, ?_⟩
        · rw [Nat.toDigits_eq_if hbase, if_pos hn, List.map_cons, List.map_nil]
        · rw [List.reverse_singleton, Nat.ofDigits_singleton]
      · have hpos : 0 < n := by omega
        rcases ih (n / base) (Nat.div_lt_self hpos hbase) with ⟨ds, hdigits, hds, _, hvalue⟩
        refine ⟨ds ++ [n % base], ?_, ?_, by simp, ?_⟩
        · rw [Nat.toDigits_eq_if hbase, if_neg hn, hdigits, List.map_append, List.map_cons,
            List.map_nil]
        · intro d hd
          rcases List.mem_append.mp hd with hd | hd
          · exact hds d hd
          · rw [List.mem_singleton.mp hd]
            exact Nat.mod_lt n (by omega)
        · rw [List.reverse_append, List.reverse_singleton, List.singleton_append,
            Nat.ofDigits_cons, hvalue]
          exact Nat.mod_add_div n base

/-- Digits without any underscore are a way of grouping them. -/
theorem inGroups_self (digits : List Char) (hne : digits ≠ []) : InGroups digits digits := by
  induction digits with
  | nil => exact absurd rfl hne
  | cons c rest ih =>
      cases rest with
      | nil => exact .last c
      | cons c' rest => exact .next c _ _ (ih (List.cons_ne_nil _ _))

/-- Digits of either case with single underscores between them spell what the digits are. -/
theorem spelled_of_inGroups (base : Nat) (hbase : base ≤ 16) (digits cs : List Char)
    (h : InGroups digits cs) : ∀ ds : List Nat, digits.map Char.toLower = ds.map Nat.digitChar →
      (∀ d ∈ ds, d < base) → Spelled base cs ds := by
  have hdigit : ∀ c d, c.toLower = Nat.digitChar d → d < base → IsDigitIn base c d := by
    intro c d hc hd
    exact ⟨hd, Or.inr (isHexDigit_of_toLower_eq c d (by omega) hc)⟩
  induction h with
  | last c =>
      intro ds hds hlt
      rcases List.map_eq_singleton_iff.mp hds.symm with ⟨d, rfl, hd⟩
      exact .last c d (hdigit c d hd.symm (hlt d (List.mem_singleton_self d)))
  | next c digits cs _ ih =>
      intro ds hds hlt
      rcases List.map_eq_cons_iff.mp hds.symm with ⟨d, ds, rfl, hd, hds⟩
      exact .next c d cs ds (hdigit c d hd.symm (hlt d List.mem_cons_self))
        (ih ds hds.symm fun d hd => hlt d (List.mem_cons_of_mem _ hd))
  | line c digits cs _ ih =>
      intro ds hds hlt
      rcases List.map_eq_cons_iff.mp hds.symm with ⟨d, ds, rfl, hd, hds⟩
      exact .line c d cs ds (hdigit c d hd.symm (hlt d List.mem_cons_self))
        (ih ds hds.symm fun d hd => hlt d (List.mem_cons_of_mem _ hd))

/-- The digits of a number in a base are spelled as the number is written. -/
theorem exists_spelled (base : Nat) (hbase : 1 < base) (hle : base ≤ 16) (n : Nat)
    (digits cs : List Char) (hdigits : digits.map Char.toLower = Nat.toDigits base n)
    (hcs : InGroups digits cs) :
    ∃ ds, Spelled base cs ds ∧ ds.length = digits.length ∧ Nat.ofDigits base ds.reverse = n := by
  rcases exists_toDigits_eq base hbase n with ⟨ds, hds, hlt, _, hvalue⟩
  have hmap : digits.map Char.toLower = ds.map Nat.digitChar := hdigits.trans hds
  refine ⟨ds, spelled_of_inGroups base hle digits cs hcs ds hmap hlt, ?_, hvalue⟩
  rw [← List.length_map Nat.digitChar, ← hmap, List.length_map]

/-- The decimal text of an integer is a numeral for it, unless it is too long. -/
theorem numeral_decimalChars (i : Int) (h : (Nat.toDigits 10 i.natAbs).length ≤ maxDigits) :
    Numeral 10 (decimalChars i) i := by
  have hlower : ∀ n, (Nat.toDigits 10 n).map Char.toLower = Nat.toDigits 10 n := by
    intro n
    rcases exists_toDigits_eq 10 (by omega) n with ⟨ds, hds, hlt, _⟩
    have hall : ∀ d : Fin 10, (Nat.digitChar d).toLower = Nat.digitChar d := by decide
    rw [hds, List.map_map]
    exact List.map_congr_left fun d hd => hall ⟨d, hlt d hd⟩
  rcases exists_spelled 10 (by omega) (by omega) i.natAbs _ _ (hlower _)
    (inGroups_self _ (Nat.toDigits_ne_nil)) with ⟨ds, hspelled, hlen, hvalue⟩
  have hfew : (10 : Nat) = 10 → ds.length ≤ maxDigits := fun _ => by omega
  have hempty : ∀ c ∈ ([] : List Char), isNumeralBlank c = true :=
    fun c hc => absurd hc List.not_mem_nil
  cases i with
  | ofNat n =>
      have hnum := Numeral.parts [] [] [] [] _ 1 ds hempty hempty (by decide) (by decide)
        hspelled hfew
      rw [hvalue, Int.one_mul, List.append_nil] at hnum
      exact hnum
  | negSucc n =>
      have hnum := Numeral.parts [] [] ['-'] [] _ (-1) ds hempty hempty (by decide) (by decide)
        hspelled hfew
      rw [hvalue, Int.neg_one_mul, List.append_nil] at hnum
      exact hnum

/-- A number in hexadecimal digits is a numeral for it, with a mark before them or without. -/
theorem numeral_hexadecimal (n : Nat) (mark digits cs : List Char) (hmark : mark ∈ marks 16)
    (hdigits : digits.map Char.toLower = Nat.toDigits 16 n) (hcs : InGroups digits cs) :
    Numeral 16 (mark ++ cs) n := by
  rcases exists_spelled 16 (by omega) (by omega) n digits cs hdigits hcs with
    ⟨ds, hspelled, _, hvalue⟩
  have hempty : ∀ c ∈ ([] : List Char), isNumeralBlank c = true :=
    fun c hc => absurd hc List.not_mem_nil
  have hnum := Numeral.parts [] [] [] mark cs 1 ds hempty hempty (by decide) hmark
    hspelled fun h => absurd h (by decide)
  rw [hvalue, Int.one_mul, List.append_nil] at hnum
  exact hnum

section Hexadecimal

variable (n : Nat) (digits : List Char) (h : digits.map Char.toLower = Nat.toDigits 16 n)

include h

/-- Hexadecimal digits of either case are such digits. -/
theorem exists_isHexDigit (c : Char) (hc : c ∈ digits) : ∃ d, Text.IsHexDigit c d := by
  rcases exists_toDigits_eq 16 (by decide) n with ⟨ds, hds, hlt, _⟩
  have hmem : c.toLower ∈ ds.map Nat.digitChar := by
    rw [← hds, ← h]
    exact List.mem_map_of_mem hc
  rcases List.mem_map.mp hmem with ⟨d, hd, hchar⟩
  exact ⟨d, isHexDigit_of_toLower_eq c d (hlt d hd) hchar.symm⟩

/-- A number has at least one of them. -/
theorem hexadecimal_ne_nil : digits ≠ [] := by
  rintro rfl
  exact Nat.toDigits_ne_nil h.symm

end Hexadecimal

end OpcodeForge.Number
