import OpcodeForge.Proofs.Yaml.Words
import OpcodeForge.Yaml.Token

/-!
# Steps of the Scanner

The scanner reads one token at a time. It finds the token behind blanks and the ends of lines, lets
go of the keys that are too far back, and then does what the first character of the token says. Each
of these is stated once here, and nothing below the steps is looked into again.

Of the pending keys it is only asked that none is required. Such keys are let go without a fault,
and to drop the one at a depth is to keep those at the others (`dropped`).

## Main definitions

* `Scanner.Reads`: The scanner gets from one state to another, a token at a time.
* `Scanner.nextLine`, `Scanner.kept`, `Scanner.dropped`, `Scanner.saved`: What happens to a state
  between tokens.
* `Scanner.AtToken`: The state at the next token.

## Theorems

* `Scanner.run_of_reads`: What is read on the way does not depend on the fuel.
* `Scanner.skipToToken_gap`, `Scanner.skipToToken_break`: What is skipped before a token.
* `Scanner.dropStale_eq`, `Scanner.dropPending_eq`, `Scanner.savePending_eq`: Pending keys.
* `Scanner.step_openBrace` and its neighbours: A token by its first character.
* `Scanner.valueMark_eq` and its neighbours: What a token does.
-/

namespace OpcodeForge.Yaml.Scanner

/-- The scanner gets from one state to another. Each token takes characters. -/
inductive Reads : Scanner → Scanner → Prop
  | here (s : Scanner) : Reads s s
  | token (s t u : Scanner) (hstep : s.step = .ok (t, true))
      (hless : t.place.rest.length < s.place.rest.length) (h : Reads t u) : Reads s u

theorem Reads.one (s t : Scanner) (hstep : s.step = .ok (t, true))
    (hless : t.place.rest.length < s.place.rest.length) : Reads s t :=
  .token s t t hstep hless (.here t)

theorem Reads.trans {s t u : Scanner} (h : Reads s t) (h' : Reads t u) : Reads s u := by
  induction h with
  | here s => exact h'
  | token s t _ hstep hless _ ih => exact .token s t u hstep hless (ih h')

/-- What is read on the way does not depend on the fuel, as long as there is enough of it. -/
theorem run_of_reads (s t : Scanner) (h : Reads s t) : ∀ fuel, s.place.rest.length < fuel →
    ∃ fuel', t.place.rest.length < fuel' ∧ run fuel s = run fuel' t := by
  induction h with
  | here s => exact fun fuel hfuel => ⟨fuel, hfuel, rfl⟩
  | token s t u hstep hless _ ih =>
      intro fuel hfuel
      cases fuel with
      | zero => exact absurd hfuel (Nat.not_lt_zero _)
      | succ fuel =>
          rcases ih fuel (by omega) with ⟨fuel', hfuel', hrun⟩
          refine ⟨fuel', hfuel', ?_⟩
          rw [run, hstep]
          exact hrun

/-- The state at the start of the next line, where a key may start outside of braces. -/
def nextLine (s : Scanner) (rest : List Char) : Scanner :=
  { s with
    place := ⟨rest, s.place.index + 1, s.place.line + 1, 0⟩
    keyAllowed := s.keyAllowed || !s.inFlow }

section Skipping

/-- A character that a token may start with. -/
def Visible (x : Char) : Prop :=
  (x == ' ') = false ∧ (x == '#') = false ∧ isBreak x = false

instance (x : Char) : Decidable (Visible x) :=
  inferInstanceAs (Decidable (_ ∧ _))

theorem visible_of_isAlphanum (x : Char) (h : x.isAlphanum = true) : Visible x :=
  ⟨beq_eq_false_of_isAlphanum x ' ' h (by decide), beq_eq_false_of_isAlphanum x '#' h (by decide),
    isBreak_of_isAlphanum x h⟩

/-- At most one space stands before a token inside a line. -/
theorem skipToToken_gap (fuel : Nat) (s : Scanner) (gap : List Char) (x : Char) (rest : List Char)
    (hgap : gap = [] ∨ gap = [' ']) (hx : Visible x) (hs : s.place.rest = gap ++ x :: rest) :
    skipToToken (fuel + 1) s = { s with place := s.place.onto gap.length (x :: rest) } := by
  have hspaces : ∀ y ∈ gap, y = ' ' := by
    rcases hgap with rfl | rfl
    · exact fun y hy => absurd hy List.not_mem_nil
    · exact fun y hy => List.mem_singleton.mp hy
  have hplace : s.place.skipWhile (· == ' ') = s.place.onto gap.length (x :: rest) := by
    refine s.place.skipWhile_inline _ gap (x :: rest) hs (fun y hy => ?_) (fun y hy => ?_) ?_
    · rw [hspaces y hy]
      decide
    · exact beq_iff_eq.mpr (hspaces y hy)
    · intro y hy
      rw [← Option.some.inj hy]
      exact hx.1
  have hcomment : (s.place.onto gap.length (x :: rest)).skipComment
      = s.place.onto gap.length (x :: rest) := by
    unfold Cursor.skipComment
    rw [if_neg]
    simp only [Cursor.onto_rest, List.head?_cons, Option.some_beq_some, hx.2.1,
      Bool.false_eq_true, not_false_eq_true]
  unfold skipToToken
  simp only [hplace, hcomment, Cursor.onto_rest, hx.2.2, Bool.false_eq_true, if_false]

theorem skipToToken_here (fuel : Nat) (s : Scanner) (x : Char) (rest : List Char)
    (hx : Visible x) (hs : s.place.rest = x :: rest) : skipToToken (fuel + 1) s = s := by
  rw [skipToToken_gap fuel s [] x rest (Or.inl rfl) hx hs, List.length_nil,
    s.place.onto_zero _ hs]

/-- The end of a line is skipped. -/
theorem skipToToken_break (fuel : Nat) (s : Scanner) (rest : List Char)
    (hs : s.place.rest = '\n' :: rest) :
    skipToToken (fuel + 1) s = skipToToken fuel (s.nextLine rest) := by
  have hplace : s.place.skipWhile (· == ' ') = s.place := by
    unfold Cursor.skipWhile
    rw [hs, List.takeWhile_cons_of_neg (by decide)]
    rfl
  have hcomment : s.place.skipComment = s.place := by
    unfold Cursor.skipComment
    rw [hs, List.head?_cons, if_neg (by decide)]
  have hnext : s.place.next = ⟨rest, s.place.index + 1, s.place.line + 1, 0⟩ := by
    unfold Cursor.next
    rw [hs]
    rfl
  have hbreak : isBreak '\n' = true := by decide
  rw [skipToToken]
  simp only [hplace, hcomment, hs, hbreak, if_true, hnext, nextLine]

theorem skipToToken_end (fuel : Nat) (s : Scanner) (hs : s.place.rest = []) :
    skipToToken (fuel + 1) s = s := by
  have hplace : s.place.skipWhile (· == ' ') = s.place := by
    unfold Cursor.skipWhile
    rw [hs]
    rfl
  have hcomment : s.place.skipComment = s.place := by
    unfold Cursor.skipComment
    rw [if_neg (by rw [hs]; decide)]
  unfold skipToToken
  simp only [hplace, hcomment, hs]

end Skipping

/-- The state without the pending keys that are on another line or too far back. -/
def kept (s : Scanner) : Scanner :=
  { s with pending := s.pending.filter fun (_, k) => !s.isStale k }

/-- The state without the pending key at its depth. -/
def dropped (s : Scanner) : Scanner :=
  { s with pending := s.pending.filter fun (d, _) => d ≠ s.depth }

/-- The state in which the next token is pending as a key that is not required. -/
def saved (s : Scanner) : Scanner :=
  let k : PendingKey := ⟨s.tokens.length, false, s.place.index, s.place.line, s.place.column⟩
  { s with pending := (s.depth, k) :: s.dropped.pending }

section Pending

variable (s : Scanner) (h : ∀ p ∈ s.pending, p.2.required = false)

include h

/-- Without required keys, none is missed. -/
theorem dropStale_eq : s.dropStale = .ok s.kept := by
  unfold dropStale kept
  rw [if_neg]
  rw [List.any_eq_true]
  rintro ⟨p, hp, hkey⟩
  rw [Bool.and_eq_true, h p hp] at hkey
  exact absurd hkey.2 Bool.false_ne_true

theorem dropPending_eq : s.dropPending = .ok s.dropped := by
  unfold dropPending
  split
  · rename_i k hk
    rcases List.lookup_eq_some_iff.mp hk with ⟨before, after, hpending, _⟩
    have hmem : (s.depth, k) ∈ s.pending := by
      rw [hpending]
      exact List.mem_append_right _ List.mem_cons_self
    rw [if_neg (by rw [h _ hmem]; exact Bool.false_ne_true)]
    rfl
  · rename_i hnone
    have hall : s.pending.filter (fun (d, _) => d ≠ s.depth) = s.pending := by
      rw [List.filter_eq_self]
      intro p hp
      have hne := List.lookup_eq_none_iff.mp hnone p hp
      exact decide_eq_true (bne_iff_ne.mp hne).symm
    unfold dropped
    rw [hall]

/-- A token that may be a key is pending in place of the one before it at its depth. -/
theorem savePending_eq (hkey : s.keyAllowed = true)
    (hcolumn : s.inFlow = true ∨ s.indent ≠ s.place.column) : s.savePending = .ok s.saved := by
  have hrequired : (!s.inFlow && s.indent == s.place.column) = false := by
    rcases hcolumn with hflow | hcolumn
    · rw [hflow]
      rfl
    · rw [beq_eq_false_iff_ne.mpr hcolumn, Bool.and_false]
  unfold savePending
  rw [if_pos hkey, s.dropPending_eq h, hrequired]
  rfl

end Pending

/-- The state at the next token, which ends no block. -/
structure AtToken (s t : Scanner) : Prop where
  skipped : (skipToToken (s.place.rest.length + 1) s).dropStale = .ok t
  level : t.unwindTo t.place.column = t

/-- No column ends the one block. -/
theorem unwindTo_column (s : Scanner) (h : s.indent ≤ 0) (column : Nat) :
    s.unwindTo column = s := by
  unfold unwindTo
  split
  · rfl
  · unfold unwind
    split
    · rfl
    · rw [if_neg (by omega)]

/-- The state at the next token, from the one behind the blanks before it. -/
theorem atToken_of_skip (s t : Scanner) (hskip : skipToToken (s.place.rest.length + 1) s = t)
    (hindent : t.indent ≤ 0) (hpending : ∀ p ∈ t.pending, p.2.required = false) :
    AtToken s t.kept := by
  constructor
  · rw [hskip, t.dropStale_eq hpending]
  · refine unwindTo_column _ ?_ _
    exact hindent

section Dispatch

variable {s t : Scanner} {rest : List Char} (h : AtToken s t)

include h

theorem step_openBrace (hrest : t.place.rest = '{' :: rest) :
    s.step = (t.openFlow .flowMappingStart).map (·, true) := by
  unfold step
  rw [h.skipped]
  simp only [bind, Except.bind, h.level, hrest]
  rfl

theorem step_closeBrace (hrest : t.place.rest = '}' :: rest) :
    s.step = (t.closeFlow .flowMappingEnd).map (·, true) := by
  unfold step
  rw [h.skipped]
  simp only [bind, Except.bind, h.level, hrest]
  rfl

theorem step_comma (hrest : t.place.rest = ',' :: rest) :
    s.step = t.flowEntry.map (·, true) := by
  unfold step
  rw [h.skipped]
  simp only [bind, Except.bind, h.level, hrest]
  rfl

theorem step_dash (hrest : t.place.rest = '-' :: ' ' :: rest) :
    s.step = t.blockEntry.map (·, true) := by
  unfold step
  rw [h.skipped]
  simp only [bind, Except.bind, h.level, hrest]
  cases t.place.column == 0 with
  | true => rfl
  | false => rfl

theorem step_colon (hrest : t.place.rest = ':' :: rest) (hflow : t.inFlow = true) :
    s.step = t.valueMark.map (·, true) := by
  unfold step
  rw [h.skipped]
  simp only [bind, Except.bind, h.level, hrest, hflow]
  rfl

theorem step_quote (hrest : t.place.rest = '"' :: rest) :
    s.step = (t.quotedScalar true).map (·, true) := by
  unfold step
  rw [h.skipped]
  simp only [bind, Except.bind, h.level, hrest]
  rfl

theorem step_word (x : Char) (hrest : t.place.rest = x :: rest) (hx : x.isAlphanum = true) :
    s.step = t.plainScalar.map (·, true) := by
  have hstarts : startsPlain t.inFlow (x :: rest) = true := by
    have hmarks : "-?:,[]\x7b\x7d#&*!|>'\"%@".toList.contains x = false := by
      rw [List.contains_eq_mem, decide_eq_false_iff_not]
      intro hmem
      have hnone : "-?:,[]\x7b\x7d#&*!|>'\"%@".toList.all (!Char.isAlphanum ·) = true := by
        decide
      have hother := List.all_eq_true.mp hnone x hmem
      rw [hx] at hother
      exact absurd hother Bool.false_ne_true
    have hblank : atBlank (x :: rest) = false := by
      simp only [atBlank, isSpaceTab_of_isAlphanum x hx, isBreak_of_isAlphanum x hx, Bool.or_self]
    have htick : (x == Char.ofNat 0x60) = false :=
      beq_eq_false_of_isAlphanum x _ hx (by decide)
    simp only [startsPlain, hblank, hmarks, htick, Bool.or_self, Bool.not_false, Bool.true_or]
  unfold step
  rw [h.skipped]
  simp only [bind, Except.bind, h.level, hrest]
  simp (disch := first | exact hx | decide) only [beq_eq_false_of_isAlphanum, Bool.false_and,
    Bool.false_or, Bool.false_eq_true, if_false, hstarts, if_true]

theorem step_end (hrest : t.place.rest = []) :
    s.step = (t.unwindTo (-1)).dropPending.map (·, false) := by
  unfold step
  rw [h.skipped]
  simp only [bind, Except.bind, h.level, hrest]
  rfl

end Dispatch

section Actions

variable (s : Scanner) (h : ∀ p ∈ s.pending, p.2.required = false)

include h

theorem flowEntry_eq :
    s.flowEntry = .ok { s.dropped.take 1 .flowEntry with keyAllowed := true } := by
  unfold flowEntry
  rw [s.dropPending_eq h]
  rfl

theorem closeFlow_eq (t : Token) (hdepth : s.depth = 1) :
    s.closeFlow t = .ok { s.dropped.take 1 t with depth := 0, keyAllowed := false } := by
  have hinner : s.dropped.depth = 1 := hdepth
  unfold closeFlow
  rw [s.dropPending_eq h]
  simp only [bind, Except.bind, hinner]
  rfl

theorem openFlow_eq (t : Token) (hkey : s.keyAllowed = true)
    (hcolumn : s.indent ≠ s.place.column) : s.openFlow t =
      .ok { s.saved.take 1 t with depth := s.depth + 1, keyAllowed := true } := by
  unfold openFlow
  rw [s.savePending_eq h hkey (Or.inr hcolumn)]
  rfl

end Actions

theorem savePending_eq_self (s : Scanner) (hkey : s.keyAllowed = false) :
    s.savePending = .ok s := by
  unfold savePending
  rw [if_neg (by rw [hkey]; exact Bool.false_ne_true)]

theorem plainScalar_eq (s t : Scanner) (hsave : s.savePending = .ok t) (hflow : t.inFlow = true)
    (w : List Char) (place : Cursor) (hscan : scanPlain true t.indent t.place = (w, false, place)) :
    s.plainScalar = .ok { t.push (.scalar w true) with place := place, keyAllowed := false } := by
  unfold plainScalar
  rw [hsave]
  simp only [bind, Except.bind, hflow, hscan]
  rfl

theorem quotedScalar_eq (s t : Scanner) (hsave : s.savePending = .ok t) (w : List Char)
    (place : Cursor) (hscan : scanQuoted true t.place = .ok (w, place)) :
    s.quotedScalar true =
      .ok { t.push (.scalar w false) with place := place, keyAllowed := false } := by
  unfold quotedScalar
  rw [hsave]
  simp only [bind, Except.bind, hscan]
  rfl

/-- The colon behind a key puts the token for the key before the last one. -/
theorem valueMark_eq (s : Scanner) (k : PendingKey) (others : List (Nat × PendingKey))
    (hflow : s.inFlow = true) (hpending : s.pending = (s.depth, k) :: others) (last : Token)
    (ts : List Token) (htokens : s.tokens = last :: ts) (hbefore : k.before = ts.length) :
    s.valueMark = .ok
      { s with
        place := s.place.advance 1
        tokens := .value :: last :: .key :: ts
        keyAllowed := false
        pending := s.dropped.pending } := by
  have hlookup : s.pending.lookup s.depth = some k := by
    rw [hpending, List.lookup_cons_self]
  -- What is pending has no part in where the key is put.
  have hinner : ∀ pending, ({ s with pending := pending } : Scanner).inFlow = true :=
    fun _ => hflow
  have hinsert : ∀ pending, ({ s with pending := pending } : Scanner).insertAt k.before [.key] =
      { s with pending := pending, tokens := last :: .key :: ts } := by
    intro pending
    have hlast : s.tokens = [last] ++ ts := htokens
    have hcount : s.tokens.length - k.before = [last].length := by
      rw [hlast, hbefore, List.length_append, Nat.add_sub_cancel]
    unfold insertAt
    rw [hcount, hlast, List.take_left, List.drop_left]
    rfl
  unfold valueMark
  rw [hlookup]
  dsimp only
  rw [if_pos (hinner _)]
  dsimp only
  rw [hinsert]
  rfl

end OpcodeForge.Yaml.Scanner
