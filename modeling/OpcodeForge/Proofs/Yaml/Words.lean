import OpcodeForge.Yaml.Scalar

/-!
# Words

A word is a row of ASCII letters and digits. None of them is a mark of any kind, so a word is one
scalar wherever it stands: without quotes it goes on to the mark behind it, and in quotes to the
closing one. Reading it moves the place on in its line, one column for each character.

## Main definitions

* `Inline`: A character that takes one column.
* `IsWord`: A row of letters and digits.
* `Cursor.onto`: The place some columns further, where a given text is left.

## Theorems

* `advance_inline`: Characters that take one column each are passed over.
* `scanQuoted_word`: A word in double quotes.
* `scanPlain_word`: A word without quotes inside brackets.
-/

namespace OpcodeForge.Yaml

/-- A character that takes one column: it ends no line and is no byte order mark. -/
def Inline (c : Char) : Prop :=
  isBreak c = false ∧ (c == '\uFEFF') = false

instance (c : Char) : Decidable (Inline c) :=
  inferInstanceAs (Decidable (_ ∧ _))

/-- A row of ASCII letters and digits. -/
def IsWord (w : List Char) : Prop :=
  ∀ c ∈ w, c.isAlphanum = true

instance (w : List Char) : Decidable (IsWord w) :=
  decidable_of_iff (w.all Char.isAlphanum = true) List.all_eq_true

/-- No mark is a letter or a digit. -/
theorem beq_eq_false_of_isAlphanum (c m : Char) (hc : c.isAlphanum = true)
    (hm : m.isAlphanum = false) : (c == m) = false := by
  rw [beq_eq_false_iff_ne]
  rintro rfl
  rw [hm] at hc
  exact absurd hc Bool.false_ne_true

theorem toNat_of_isAlphanum (c : Char) (h : c.isAlphanum = true) :
    48 ≤ c.toNat ∧ c.toNat ≤ 122 := by
  have hval : c.val.toNat = c.toNat := rfl
  have hbounds : 'A'.val.toNat = 65 ∧ 'Z'.val.toNat = 90 ∧ 'a'.val.toNat = 97 ∧
      'z'.val.toNat = 122 ∧ '0'.val.toNat = 48 ∧ '9'.val.toNat = 57 := by decide
  delta Char.isAlphanum Char.isAlpha Char.isUpper Char.isLower Char.isDigit at h
  simp only [Bool.or_eq_true, Bool.and_eq_true, decide_eq_true_eq, ge_iff_le,
    UInt32.le_iff_toNat_le] at h
  omega

theorem isBreak_of_isAlphanum (c : Char) (h : c.isAlphanum = true) : isBreak c = false := by
  unfold isBreak
  simp (disch := first | exact h | decide) only [beq_eq_false_of_isAlphanum, Bool.or_self]

theorem isSpaceTab_of_isAlphanum (c : Char) (h : c.isAlphanum = true) :
    Text.isSpaceTab c = false := by
  unfold Text.isSpaceTab
  simp (disch := first | exact h | decide) only [beq_eq_false_of_isAlphanum, Bool.or_self]

theorem isFlowMark_of_isAlphanum (c : Char) (h : c.isAlphanum = true) : isFlowMark c = false := by
  unfold isFlowMark
  simp (disch := first | exact h | decide) only [beq_eq_false_of_isAlphanum, Bool.or_self]

theorem inline_of_isAlphanum (c : Char) (h : c.isAlphanum = true) : Inline c :=
  ⟨isBreak_of_isAlphanum c h, beq_eq_false_of_isAlphanum c '\uFEFF' h (by decide)⟩

namespace Cursor

/-- The place `n` columns further, where the text `rest` is left. -/
def onto (c : Cursor) (n : Nat) (rest : List Char) : Cursor :=
  ⟨rest, c.index + n, c.line, c.column + n⟩

@[simp]
theorem onto_rest (c : Cursor) (n : Nat) (rest : List Char) : (c.onto n rest).rest = rest := rfl

theorem onto_onto (c : Cursor) (m n : Nat) (cs rest : List Char) :
    (c.onto m cs).onto n rest = c.onto (m + n) rest := by
  unfold onto
  simp only [Nat.add_assoc]

theorem onto_zero (c : Cursor) (rest : List Char) (h : c.rest = rest) : c.onto 0 rest = c := by
  subst h
  rfl

theorem next_inline (c : Cursor) (x : Char) (rest : List Char) (hc : c.rest = x :: rest)
    (hx : Inline x) : c.next = c.onto 1 rest := by
  unfold next
  rw [hc]
  simp only [hx.1, hx.2, Bool.false_eq_true, if_false]
  rfl

/-- Characters that take one column each are passed over. -/
theorem advance_inline (w rest : List Char) (hw : ∀ x ∈ w, Inline x) :
    ∀ c : Cursor, c.rest = w ++ rest → c.advance w.length = c.onto w.length rest := by
  induction w with
  | nil =>
      intro c hc
      exact (c.onto_zero rest hc).symm
  | cons x w ih =>
      intro c hc
      rw [List.length_cons, advance, next_inline c x (w ++ rest) hc (hw x List.mem_cons_self),
        ih (fun y hy => hw y (List.mem_cons_of_mem x hy)) _ rfl, onto_onto, Nat.add_comm]

/-- So are those that satisfy a predicate, up to the first one that does not. -/
theorem skipWhile_inline (p : Char → Bool) (c : Cursor) (w rest : List Char)
    (hc : c.rest = w ++ rest) (hw : ∀ x ∈ w, Inline x) (hp : ∀ x ∈ w, p x = true)
    (hrest : ∀ x, rest.head? = some x → p x = false) : c.skipWhile p = c.onto w.length rest := by
  have htake : rest.takeWhile p = [] := by
    cases rest with
    | nil => rfl
    | cons x rest => rw [List.takeWhile_cons_of_neg (by rw [hrest x rfl]; exact Bool.false_ne_true)]
  unfold skipWhile
  rw [hc, List.takeWhile_append_of_pos hp, htake, List.append_nil]
  exact advance_inline w rest hw c hc

end Cursor

/-- In double quotes, a word goes on to the closing quote. -/
theorem quotedFrom_word (w rest : List Char) (hw : IsWord w) :
    ∀ (fuel : Nat) (read : List Char) (c : Cursor), w.length < fuel →
      c.rest = w ++ '"' :: rest →
      quotedFrom true fuel read c = .ok (read.reverse ++ w, c.onto (w.length + 1) rest) := by
  induction w with
  | nil =>
      intro fuel read c hfuel hc
      cases fuel with
      | zero => exact absurd hfuel (Nat.lt_irrefl 0)
      | succ fuel =>
          unfold quotedFrom
          rw [hc, List.nil_append]
          simp only [if_true, List.append_nil]
          rw [c.next_inline '"' rest hc (by decide)]
          rfl
  | cons x w ih =>
      intro fuel read c hfuel hc
      have hx : x.isAlphanum = true := hw x List.mem_cons_self
      cases fuel with
      | zero => exact absurd hfuel (Nat.not_lt_zero _)
      | succ fuel =>
          unfold quotedFrom
          rw [hc, List.cons_append]
          have hmarks : ∀ m : Char, m.isAlphanum = false → x ≠ m :=
            fun m hm => beq_eq_false_iff_ne.mp (beq_eq_false_of_isAlphanum x m hx hm)
          split
          · rename_i heq
            exact absurd (List.cons.inj heq).1 (hmarks _ (by decide))
          · rename_i heq
            exact absurd (List.cons.inj heq).1 (hmarks _ (by decide))
          · rename_i heq
            exact absurd (List.cons.inj heq).1 (hmarks _ (by decide))
          · rename_i y _ _ _ _ heq
            rw [← (List.cons.inj heq).1, isSpaceTab_of_isAlphanum x hx, isBreak_of_isAlphanum x hx,
              c.next_inline x (w ++ '"' :: rest) hc (inline_of_isAlphanum x hx)]
            simp only [Bool.or_self, Bool.false_eq_true, if_false]
            have hread := ih (fun y hy => hw y (List.mem_cons_of_mem x hy)) fuel (x :: read)
              (c.onto 1 (w ++ '"' :: rest)) (Nat.lt_of_succ_lt_succ hfuel) rfl
            rw [hread, List.reverse_cons, List.append_assoc, List.singleton_append,
              Cursor.onto_onto, List.length_cons]
            have hlen : 1 + (w.length + 1) = w.length + 1 + 1 := by omega
            rw [hlen]
          · rename_i heq
            exact absurd heq (List.cons_ne_nil _ _)

/-- A word in double quotes. -/
theorem scanQuoted_word (w rest : List Char) (hw : IsWord w) (c : Cursor)
    (hc : c.rest = '"' :: (w ++ '"' :: rest)) :
    scanQuoted true c = .ok (w, c.onto (w.length + 2) rest) := by
  unfold scanQuoted
  rw [c.next_inline '"' _ hc (by decide)]
  have hfuel : w.length < c.rest.length + 1 := by
    rw [hc, List.length_cons, List.length_append]
    omega
  rw [quotedFrom_word w rest hw _ [] (c.onto 1 (w ++ '"' :: rest)) hfuel rfl, Cursor.onto_onto,
    List.reverse_nil, List.nil_append]
  have hlen : 1 + (w.length + 1) = w.length + 2 := by omega
  rw [hlen]

/-- Without quotes, a word goes on to the mark behind it. -/
theorem plainWord_word (w rest : List Char) (hw : IsWord w) (hrest : plainWord true rest = []) :
    plainWord true (w ++ rest) = w := by
  induction w with
  | nil => exact hrest
  | cons x w ih =>
      have hx : x.isAlphanum = true := hw x List.mem_cons_self
      rw [List.cons_append, plainWord]
      simp only [isSpaceTab_of_isAlphanum x hx, isBreak_of_isAlphanum x hx,
        beq_eq_false_of_isAlphanum x ':' hx (by decide), isFlowMark_of_isAlphanum x hx,
        beq_eq_false_of_isAlphanum x '?' hx (by decide), Bool.false_and, Bool.or_self,
        Bool.and_false, Bool.false_eq_true, if_false]
      rw [ih fun y hy => hw y (List.mem_cons_of_mem x hy)]

/-- A word without quotes inside brackets, up to a mark that neither is a blank nor ends the
    line. -/
theorem scanPlain_word (w rest : List Char) (m : Char) (hne : w ≠ []) (hw : IsWord w)
    (outer : Int) (c : Cursor) (hc : c.rest = w ++ m :: rest)
    (hword : plainWord true (m :: rest) = []) (hm : m ≠ ' ') (hbreak : isBreak m = false) :
    scanPlain true outer c = (w, false, c.onto w.length (m :: rest)) := by
  unfold scanPlain plainFrom
  have hnumber : ¬(c.rest.head? == some '#') = true := by
    rcases List.exists_cons_of_ne_nil hne with ⟨x, w, rfl⟩
    rw [hc, List.cons_append, List.head?_cons, beq_iff_eq, Option.some.injEq]
    rintro rfl
    exact absurd (hw '#' List.mem_cons_self) (by decide)
  have hfirst : (if c.rest.head? == some '#' then [] else plainWord true c.rest) = w := by
    rw [if_neg hnumber, hc, plainWord_word w _ hw hword]
  have hplace : c.advance w.length = c.onto w.length (m :: rest) :=
    Cursor.advance_inline w _ (fun x hx => inline_of_isAlphanum x (hw x hx)) c hc
  have hspaces : plainSpaces (c.onto w.length (m :: rest))
      = (some [], false, c.onto w.length (m :: rest)) := by
    unfold plainSpaces
    simp only [Cursor.onto_rest, List.takeWhile_cons_of_neg (p := (· == ' ')) (by simpa using hm),
      List.length_nil, Cursor.advance, hbreak, Bool.false_eq_true, if_false]
  have hfull : w.isEmpty = false := by simpa using hne
  simp only [hfirst, hfull, Bool.false_eq_true, if_false, hplace, hspaces, List.isEmpty_nil,
    Bool.true_or, if_true, List.append_nil, List.reverse_reverse]

end OpcodeForge.Yaml
