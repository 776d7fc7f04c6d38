import OpcodeForge.Proofs.Yaml.Steps

/-!
# Scanning One-Line Mappings

A list with a mapping in braces on each of its lines, whose keys and values are words. It is read
token by token, and a lemma for each says what is known of the state after it.

Keys make this less simple than it looks. A key is put in only when its colon is read, and until
then it is pending; so is every brace that opens an item, which could have been a key too and never
becomes one. Such a leftover is not required and not at the depth of the fields, so it neither is
an error when the next line lets go of it nor is taken for a key there. That is the invariant of
the whole scan (`Holds`).

## Main definitions

* `Cell`, `Field`, `Item`: A word as a value, a key with one, and a mapping of such fields.
* `Item.line`, `listing`: The text of an item, and of a list of them.
* `Scanner.Holds`, `Scanner.Pends`, `Scanner.AtLine`: What is known of a state.

## Theorems

* `Scanner.Holds.word`, `Scanner.Pends.colon`, `Scanner.Holds.cell`: The tokens of a field.
* `Scanner.reads_field`, `Scanner.reads_fields`: A field, and several of them.
* `Scanner.reads_item`, `Scanner.reads_items`: An item, and the rest of the list.
* `scanTokens_listing`: The tokens of a list.
-/

namespace OpcodeForge.Yaml

/-- A word as a value, in double quotes or without. -/
structure Cell where
  chars : List Char
  quoted : Bool

/-- A value is a word, and without quotes there is something of it. -/
structure Cell.Sound (w : Cell) : Prop where
  word : IsWord w.chars
  full : w.quoted = false → w.chars ≠ []

/-- A value as it is written. -/
def Cell.written (w : Cell) : List Char :=
  if w.quoted then '"' :: (w.chars ++ ['"']) else w.chars

/-- The token of a value. -/
def Cell.token (w : Cell) : Token :=
  .scalar w.chars !w.quoted

/-- A key with its value. -/
structure Field where
  key : List Char
  cell : Cell

/-- A key is a word, and so short that its colon is not too far from its start. -/
structure Field.Sound (f : Field) : Prop where
  word : IsWord f.key
  full : f.key ≠ []
  short : f.key.length ≤ 1024
  cell : f.cell.Sound

/-- A field as it is written. -/
def Field.written (f : Field) : List Char :=
  f.key ++ ':' :: ' ' :: f.cell.written

/-- The tokens of a field. -/
def Field.tokens (f : Field) : List Token :=
  [.key, .scalar f.key true, .value, f.cell.token]

/-- The fields after the first one, as they are written. -/
def moreWritten (fs : List Field) : List Char :=
  fs.flatMap fun f => ',' :: ' ' :: f.written

/-- The tokens of the fields after the first one. -/
def moreTokens (fs : List Field) : List Token :=
  fs.flatMap fun f => .flowEntry :: f.tokens

/-- A mapping, which has a first field. -/
structure Item where
  first : Field
  more : List Field

/-- The fields of a mapping. -/
def Item.fields (i : Item) : List Field :=
  i.first :: i.more

/-- The fields of a mapping are all in order. -/
def Item.Sound (i : Item) : Prop :=
  ∀ f ∈ i.fields, f.Sound

/-- An item of the list, as it is written. -/
def Item.line (i : Item) : List Char :=
  '-' :: ' ' :: '{' :: (i.first.written ++ (moreWritten i.more ++ ['}']))

/-- The tokens of an item. -/
def Item.tokens (i : Item) : List Token :=
  .blockEntry :: .flowMappingStart :: (i.first.tokens ++ (moreTokens i.more ++ [.flowMappingEnd]))

/-- The lines of the items after the first one, each behind the end of the line before it. -/
def moreLines (items : List Item) : List Char :=
  items.flatMap fun i => '\n' :: i.line

namespace Scanner

/-- What is known of a state: its depth, whether a key may start, the tokens so far, backwards, and
    the text that is left. One block is open, and no pending key will be missed. -/
structure Holds (s : Scanner) (depth : Nat) (keyAllowed : Bool) (tokens : List Token)
    (rest : List Char) : Prop where
  depth : s.depth = depth
  keyAllowed : s.keyAllowed = keyAllowed
  tokens : s.tokens = tokens
  rest : s.place.rest = rest
  indent : s.indent = 0
  outer : s.outer = [-1]
  pending : ∀ p ∈ s.pending, p.1 = 0 ∧ p.2.required = false

/-- The state behind a word inside braces that is pending as a key. -/
structure Pends (s : Scanner) (last : Token) (ts : List Token) (rest : List Char) : Prop where
  depth : s.depth = 1
  tokens : s.tokens = last :: ts
  rest : s.place.rest = rest
  indent : s.indent = 0
  outer : s.outer = [-1]
  pending : ∃ k others, s.pending = (1, k) :: others ∧ k.before = ts.length ∧
    k.line = s.place.line ∧ s.place.index ≤ k.index + 1024 ∧ k.required = false ∧
    ∀ p ∈ others, p.1 = 0 ∧ p.2.required = false

/-- The state at the start of a line. The block of the list is open from the second one on. -/
structure AtLine (s : Scanner) (started : Bool) (ts : List Token) (rest : List Char) : Prop where
  depth : s.depth = 0
  keyAllowed : s.keyAllowed = true
  tokens : s.tokens = ts
  rest : s.place.rest = rest
  column : s.place.column = 0
  indent : s.indent = if started then 0 else -1
  outer : s.outer = if started then [-1] else []
  pending : ∀ p ∈ s.pending, p.1 = 0 ∧ p.2.required = false

/-- The token that the first dash puts before its own. -/
def opening (started : Bool) : List Token :=
  if started then [] else [.blockSequenceStart]

namespace Holds

variable {s : Scanner} {depth : Nat} {key : Bool} {ts : List Token} {rest : List Char}

theorem required (h : Holds s depth key ts rest) : ∀ p ∈ s.pending, p.2.required = false :=
  fun p hp => (h.pending p hp).2

theorem inFlow (h : Holds s 1 key ts rest) : s.inFlow = true := by
  unfold Scanner.inFlow
  rw [h.depth]
  rfl

/-- Looking for stale keys changes nothing else. -/
theorem found {t : Scanner} (h : Holds t depth key ts rest)
    (hskip : skipToToken (s.place.rest.length + 1) s = t) :
    ∃ u, AtToken s u ∧ Holds u depth key ts rest ∧ u.place = t.place := by
  refine ⟨_, atToken_of_skip s t hskip (Int.le_of_eq h.indent) h.required, ?_, rfl⟩
  exact ⟨h.depth, h.keyAllowed, h.tokens, h.rest, h.indent, h.outer,
    fun p hp => h.pending p (List.mem_filter.mp hp).1⟩

/-- The next token is found, and nothing else has changed. -/
theorem atToken (gap : List Char) (x : Char) (h : Holds s depth key ts (gap ++ x :: rest))
    (hgap : gap = [] ∨ gap = [' ']) (hx : Visible x) : ∃ t, AtToken s t ∧
      Holds t depth key ts (x :: rest) ∧ t.place = s.place.onto gap.length (x :: rest) := by
  have hskip := skipToToken_gap s.place.rest.length s gap x rest hgap hx h.rest
  refine found ?_ hskip
  exact ⟨h.depth, h.keyAllowed, h.tokens, rfl, h.indent, h.outer, h.pending⟩

/-- The word of a key. -/
theorem word (w : List Char) (hw : IsWord w) (hne : w ≠ []) (hshort : w.length ≤ 1024)
    (gap : List Char) (hgap : gap = [] ∨ gap = [' '])
    (h : Holds s 1 true ts (gap ++ (w ++ ':' :: ' ' :: rest))) :
    ∃ t, Reads s t ∧ Pends t (.scalar w true) ts (':' :: ' ' :: rest) := by
  rcases List.exists_cons_of_ne_nil hne with ⟨x, w', rfl⟩
  have hx : x.isAlphanum = true := hw x List.mem_cons_self
  rcases h.atToken gap x hgap (visible_of_isAlphanum x hx) with ⟨t, hat, ht, _⟩
  have hscan := scanPlain_word (x :: w') (' ' :: rest) ':' hne hw t.indent t.place ht.rest rfl
    (by decide) (by decide)
  have hstep := step_word hat x ht.rest hx
  rw [plainScalar_eq t t.saved (t.savePending_eq ht.required ht.keyAllowed (Or.inl ht.inFlow))
    ht.inFlow _ _ hscan] at hstep
  refine ⟨_, .one s _ hstep ?_, ?_⟩
  · rw [h.rest]
    simp only [Cursor.onto_rest, List.length_append, List.length_cons]
    omega
  · have hindex : t.place.index + (x :: w').length ≤ t.place.index + 1024 := by omega
    exact ⟨ht.depth, congrArg _ ht.tokens, rfl, ht.indent, ht.outer, _, _,
      congrArg (List.cons · _) (congrArg (Prod.mk · _) ht.depth), congrArg _ ht.tokens, rfl,
      hindex, rfl, fun p hp => ht.pending p (List.mem_filter.mp hp).1⟩

/-- The state after a token of one character that can be no key. -/
theorem mark {t u : Scanner} {x : Char} {depth' : Nat} {key' : Bool} {tok : Token}
    (hs : Holds s depth key ts (x :: rest)) (hx : Inline x)
    (ht : Holds t depth key ts (x :: rest)) (hstep : s.step = .ok (u, true))
    (hu : u = { t.dropped.take 1 tok with depth := depth', keyAllowed := key' }) :
    Reads s u ∧ Holds u depth' key' (tok :: ts) rest := by
  subst hu
  have hrest : (t.place.advance 1).rest = rest :=
    congrArg Cursor.rest (t.place.next_inline x rest ht.rest hx)
  constructor
  · refine .one s _ hstep ?_
    rw [hs.rest]
    exact (congrArg List.length hrest).symm ▸ Nat.lt_succ_self _
  · exact ⟨rfl, rfl, congrArg _ ht.tokens, hrest, ht.indent, ht.outer,
      fun p hp => ht.pending p (List.mem_filter.mp hp).1⟩

/-- A comma between two fields. -/
theorem comma (h : Holds s 1 false ts (',' :: rest)) :
    ∃ t, Reads s t ∧ Holds t 1 true (.flowEntry :: ts) rest := by
  rcases h.atToken [] ',' (Or.inl rfl) (by decide) with ⟨t, hat, ht, _⟩
  have hstep := step_comma hat ht.rest
  rw [t.flowEntry_eq ht.required] at hstep
  refine ⟨_, h.mark (by decide) ht hstep ?_⟩
  rw [← ht.depth]
  rfl

/-- The closing brace. -/
theorem closeBrace (h : Holds s 1 false ts ('}' :: rest)) :
    ∃ t, Reads s t ∧ Holds t 0 false (.flowMappingEnd :: ts) rest := by
  rcases h.atToken [] '}' (Or.inl rfl) (by decide) with ⟨t, hat, ht, _⟩
  have hstep := step_closeBrace hat ht.rest
  rw [t.closeFlow_eq ht.required _ ht.depth] at hstep
  exact ⟨_, h.mark (by decide) ht hstep rfl⟩

/-- The brace that opens an item. It could have been a key, and is pending from now on. -/
theorem openBrace (h : Holds s 0 true ts (' ' :: '{' :: rest)) :
    ∃ t, Reads s t ∧ Holds t 1 true (.flowMappingStart :: ts) rest := by
  rcases h.atToken [' '] '{' (Or.inr rfl) (by decide) with ⟨t, hat, ht, hplace⟩
  have hcolumn : t.indent ≠ t.place.column := by
    have hbehind : t.place.column = s.place.column + 1 := congrArg Cursor.column hplace
    rw [ht.indent, hbehind]
    omega
  have hstep := step_openBrace hat ht.rest
  rw [t.openFlow_eq ht.required _ ht.keyAllowed hcolumn] at hstep
  have hrest : (t.place.advance 1).rest = rest :=
    congrArg Cursor.rest (t.place.next_inline '{' rest ht.rest (by decide))
  refine ⟨_, .one s _ hstep ?_, ?_⟩
  · rw [h.rest, List.length_cons, List.length_cons]
    exact (congrArg List.length hrest).symm ▸ Nat.lt_succ_of_lt (Nat.lt_succ_self _)
  · refine ⟨congrArg (· + 1) ht.depth, rfl, congrArg _ ht.tokens, hrest, ht.indent, ht.outer, ?_⟩
    intro p hp
    rcases List.mem_cons.mp hp with rfl | hp
    · exact ⟨ht.depth, rfl⟩
    · exact ht.pending p (List.mem_filter.mp hp).1

/-- The value of a field, up to the comma or the brace behind it. -/
theorem cell (w : Cell) (hw : w.Sound) (m : Char) (hm : m = ',' ∨ m = '}')
    (h : Holds s 1 false ts (' ' :: (w.written ++ m :: rest))) :
    ∃ t, Reads s t ∧ Holds t 1 false (w.token :: ts) (m :: rest) := by
  rcases w with ⟨cs, quoted⟩
  cases quoted with
  | true =>
      have hquoted : (Cell.mk cs true).written ++ m :: rest = '"' :: (cs ++ '"' :: m :: rest) := by
        unfold Cell.written
        rw [if_pos rfl, List.cons_append, List.append_assoc, List.singleton_append]
      rw [hquoted] at h
      rcases h.atToken [' '] '"' (Or.inr rfl) (by decide) with ⟨t, hat, ht, _⟩
      have hstep := step_quote hat ht.rest
      rw [quotedScalar_eq t t (t.savePending_eq_self ht.keyAllowed) _ _
        (scanQuoted_word cs (m :: rest) hw.word t.place ht.rest)] at hstep
      refine ⟨_, .one s _ hstep ?_, ?_⟩
      · rw [h.rest]
        simp only [Cursor.onto_rest, List.length_append, List.length_cons]
        omega
      · exact ⟨ht.depth, rfl, congrArg _ ht.tokens, rfl, ht.indent, ht.outer, ht.pending⟩
  | false =>
      have hne : cs ≠ [] := hw.full rfl
      have hplain : (Cell.mk cs false).written ++ m :: rest = cs ++ m :: rest := rfl
      rw [hplain] at h
      rcases List.exists_cons_of_ne_nil hne with ⟨x, cs', hcs⟩
      have hx : x.isAlphanum = true := hw.word x (hcs ▸ List.mem_cons_self)
      have h' : Holds s 1 false ts ([' '] ++ x :: (cs' ++ m :: rest)) := by
        rwa [hcs] at h
      rcases h'.atToken [' '] x (Or.inr rfl) (visible_of_isAlphanum x hx) with ⟨t, hat, ht, _⟩
      have hplace : t.place.rest = cs ++ m :: rest := by
        rw [ht.rest, hcs]
        rfl
      have hend : plainWord true (m :: rest) = [] := by
        rcases hm with rfl | rfl <;> rfl
      have hscan := scanPlain_word cs rest m hne hw.word t.indent t.place hplace hend
        (by rcases hm with rfl | rfl <;> decide) (by rcases hm with rfl | rfl <;> decide)
      have hstep := step_word hat x ht.rest hx
      rw [plainScalar_eq t t (t.savePending_eq_self ht.keyAllowed) ht.inFlow _ _ hscan] at hstep
      refine ⟨_, .one s _ hstep ?_, ?_⟩
      · rw [h.rest]
        simp only [Cursor.onto_rest, List.length_append, List.length_cons]
        omega
      · exact ⟨ht.depth, rfl, congrArg _ ht.tokens, rfl, ht.indent, ht.outer, ht.pending⟩

end Holds

/-- The colon behind a key, which puts the key in. -/
theorem Pends.colon {s : Scanner} {last : Token} {ts : List Token} {rest : List Char}
    (h : Pends s last ts (':' :: rest)) :
    ∃ t, Reads s t ∧ Holds t 1 false (.value :: last :: .key :: ts) rest := by
  rcases h.pending with ⟨k, others, hpending, hbefore, hline, hindex, hrequired, hothers⟩
  have hskip := skipToToken_here s.place.rest.length s ':' rest (by decide) h.rest
  have hall : ∀ p ∈ s.pending, p.2.required = false := by
    intro p hp
    rw [hpending] at hp
    rcases List.mem_cons.mp hp with rfl | hp
    · exact hrequired
    · exact (hothers p hp).2
  have hat := atToken_of_skip s s hskip (Int.le_of_eq h.indent) hall
  -- The key is on the same line and near enough, so it is still pending.
  have hfresh : s.isStale k = false := by
    unfold isStale
    rw [Bool.or_eq_false_iff, decide_eq_false_iff_not, decide_eq_false_iff_not]
    exact ⟨fun hne => hne hline, by omega⟩
  have hkept : ∃ left, s.kept.pending = (s.kept.depth, k) :: left ∧ left ⊆ others := by
    unfold kept
    dsimp only
    rw [hpending, List.filter_cons_of_pos (by simp only [hfresh, Bool.not_false]), h.depth]
    exact ⟨_, rfl, List.filter_sublist.subset⟩
  rcases hkept with ⟨left, hkept, hleft⟩
  have hflow : s.kept.inFlow = true := by
    unfold inFlow
    rw [show s.kept.depth = 1 from h.depth]
    rfl
  have hstep := step_colon hat h.rest hflow
  rw [valueMark_eq s.kept k left hflow hkept last ts h.tokens hbefore] at hstep
  have hrest : (s.kept.place.advance 1).rest = rest :=
    congrArg Cursor.rest (s.place.next_inline ':' rest h.rest (by decide))
  refine ⟨_, .one s _ hstep ?_, ?_⟩
  · rw [h.rest]
    exact (congrArg List.length hrest).symm ▸ Nat.lt_succ_self _
  · refine ⟨h.depth, rfl, rfl, hrest, h.indent, h.outer, ?_⟩
    intro p hp
    rcases List.mem_filter.mp hp with ⟨hp, hother⟩
    rw [hkept] at hp
    rcases List.mem_cons.mp hp with rfl | hp
    · exact absurd rfl (of_decide_eq_true hother)
    · exact hothers p (hleft hp)

/-- A field, up to the comma or the brace behind it. -/
theorem reads_field {s : Scanner} {ts : List Token} {rest : List Char} (f : Field) (hf : f.Sound)
    (gap : List Char) (hgap : gap = [] ∨ gap = [' ']) (m : Char) (hm : m = ',' ∨ m = '}')
    (h : Holds s 1 true ts (gap ++ (f.written ++ m :: rest))) :
    ∃ t, Reads s t ∧ Holds t 1 false (f.tokens.reverse ++ ts) (m :: rest) := by
  have hwritten :
      f.written ++ m :: rest = f.key ++ ':' :: ' ' :: (f.cell.written ++ m :: rest) := by
    unfold Field.written
    rw [List.append_assoc, List.cons_append, List.cons_append]
  rw [hwritten] at h
  rcases h.word f.key hf.word hf.full hf.short gap hgap with ⟨t, hst, ht⟩
  rcases ht.colon with ⟨u, htu, hu⟩
  rcases hu.cell f.cell hf.cell m hm with ⟨v, huv, hv⟩
  exact ⟨v, hst.trans (htu.trans huv), hv⟩

/-- Behind a field stands the comma of the next one or the closing brace. -/
theorem exists_fieldEnd (fs : List Field) (rest : List Char) :
    ∃ m more, (m = ',' ∨ m = '}') ∧ moreWritten fs ++ '}' :: rest = m :: more := by
  cases fs with
  | nil => exact ⟨'}', rest, Or.inr rfl, rfl⟩
  | cons g fs => exact ⟨',', _, Or.inl rfl, rfl⟩

/-- The fields after the first one, up to the closing brace. -/
theorem reads_fields (fs : List Field) (hfs : ∀ f ∈ fs, f.Sound) (rest : List Char) :
    ∀ (s : Scanner) (ts : List Token), Holds s 1 false ts (moreWritten fs ++ '}' :: rest) →
      ∃ t, Reads s t ∧ Holds t 1 false ((moreTokens fs).reverse ++ ts) ('}' :: rest) := by
  induction fs with
  | nil => exact fun s ts h => ⟨s, .here s, h⟩
  | cons f fs ih =>
      intro s ts h
      have hwritten : moreWritten (f :: fs) ++ '}' :: rest =
          ',' :: (' ' :: (f.written ++ (moreWritten fs ++ '}' :: rest))) := by
        unfold moreWritten
        simp only [List.flatMap_cons, List.cons_append, List.append_assoc]
      have htokens : moreTokens (f :: fs) = .flowEntry :: (f.tokens ++ moreTokens fs) := by
        unfold moreTokens
        simp only [List.flatMap_cons, List.cons_append]
      rcases exists_fieldEnd fs rest with ⟨m, more, hm, hmore⟩
      rw [hwritten, hmore] at h
      rcases h.comma with ⟨t, hst, ht⟩
      rcases reads_field f (hfs f List.mem_cons_self) [' '] (Or.inr rfl) m hm ht with ⟨u, htu, hu⟩
      rw [← hmore] at hu
      rcases ih (fun g hg => hfs g (List.mem_cons_of_mem f hg)) u _ hu with ⟨v, huv, hv⟩
      refine ⟨v, hst.trans (htu.trans huv), ?_⟩
      rw [htokens, List.reverse_cons, List.reverse_append, List.append_assoc, List.append_assoc]
      exact hv

/-- The next token at the start of a line. -/
theorem AtLine.atToken {s t : Scanner} {started : Bool} {ts : List Token} {rest : List Char}
    (h : AtLine t started ts rest) (hskip : skipToToken (s.place.rest.length + 1) s = t) :
    ∃ u, AtToken s u ∧ AtLine u started ts rest := by
  have hindent : t.indent ≤ 0 := by
    rw [h.indent]
    cases started with
    | true => exact Int.le_refl 0
    | false => decide
  refine ⟨_, atToken_of_skip s t hskip hindent fun p hp => (h.pending p hp).2, ?_⟩
  exact ⟨h.depth, h.keyAllowed, h.tokens, h.rest, h.column, h.indent, h.outer,
    fun p hp => h.pending p (List.mem_filter.mp hp).1⟩

/-- The first dash opens the block of the list, and the others find it open. -/
theorem AtLine.startBlock {s : Scanner} {started : Bool} {ts : List Token} {rest : List Char}
    (h : AtLine s started ts rest) : ∃ t, s.startBlock .blockSequenceStart = .ok t ∧
      Holds t 0 true (opening started ++ ts) rest := by
  have hflow : s.inFlow = false := by
    unfold inFlow
    rw [h.depth]
    rfl
  unfold Scanner.startBlock enterBlock?
  rw [if_neg (by rw [hflow]; exact Bool.false_ne_true), if_neg (by rw [h.keyAllowed]; decide)]
  cases started with
  | true =>
      rw [if_neg (by rw [h.indent, h.column]; decide)]
      exact ⟨s, rfl, h.depth, h.keyAllowed, h.tokens, h.rest, h.indent, h.outer, h.pending⟩
  | false =>
      rw [if_pos (by rw [h.indent, h.column]; decide)]
      have houter : s.indent :: s.outer = [-1] := by rw [h.indent, h.outer]; rfl
      exact ⟨_, rfl, h.depth, h.keyAllowed, congrArg _ h.tokens, h.rest, congrArg _ h.column,
        houter, h.pending⟩

/-- The dash at the start of a line. -/
theorem reads_dash {s t : Scanner} {started : Bool} {ts : List Token} {rest : List Char}
    (hskip : skipToToken (s.place.rest.length + 1) s = t)
    (hless : t.place.rest.length ≤ s.place.rest.length)
    (ht : AtLine t started ts ('-' :: ' ' :: rest)) :
    ∃ u, Reads s u ∧ Holds u 0 true (.blockEntry :: (opening started ++ ts)) (' ' :: rest) := by
  rcases ht.atToken hskip with ⟨v, hat, hv⟩
  rcases hv.startBlock with ⟨w, hstart, hw⟩
  have hentry : v.blockEntry = .ok { w.dropped.take 1 .blockEntry with keyAllowed := true } := by
    unfold blockEntry
    rw [hstart]
    simp only [bind, Except.bind]
    rw [w.dropPending_eq hw.required]
    rfl
  have hstep := step_dash hat hv.rest
  rw [hentry] at hstep
  have hrest : (w.place.advance 1).rest = ' ' :: rest :=
    congrArg Cursor.rest (w.place.next_inline '-' _ hw.rest (by decide))
  refine ⟨_, .one s _ hstep ?_, ?_⟩
  · refine Nat.lt_of_lt_of_le ?_ hless
    rw [ht.rest]
    exact (congrArg List.length hrest).symm ▸ Nat.lt_succ_self _
  · exact ⟨hw.depth, rfl, congrArg _ hw.tokens, hrest, hw.indent, hw.outer,
      fun p hp => hw.pending p (List.mem_filter.mp hp).1⟩

/-- A line of the list. -/
theorem reads_item {s t : Scanner} {started : Bool} {ts : List Token} {rest : List Char}
    (i : Item) (hi : i.Sound) (hskip : skipToToken (s.place.rest.length + 1) s = t)
    (hless : t.place.rest.length ≤ s.place.rest.length)
    (ht : AtLine t started ts (i.line ++ rest)) :
    ∃ u, Reads s u ∧ Holds u 0 false (i.tokens.reverse ++ (opening started ++ ts)) rest := by
  have hline : i.line ++ rest =
      '-' :: ' ' :: ('{' :: (i.first.written ++ (moreWritten i.more ++ '}' :: rest))) := by
    unfold Item.line
    simp only [List.cons_append, List.append_assoc, List.nil_append]
  rw [hline] at ht
  rcases reads_dash hskip hless ht with ⟨u, hsu, hu⟩
  rcases hu.openBrace with ⟨v, huv, hv⟩
  rcases exists_fieldEnd i.more rest with ⟨m, more, hm, hmore⟩
  rw [hmore] at hv
  rcases reads_field i.first (hi _ List.mem_cons_self) [] (Or.inl rfl) m hm hv with ⟨w, hvw, hw⟩
  rw [← hmore] at hw
  rcases reads_fields i.more (fun f hf => hi f (List.mem_cons_of_mem _ hf)) rest w _ hw with
    ⟨x, hwx, hx⟩
  rcases hx.closeBrace with ⟨y, hxy, hy⟩
  refine ⟨y, hsu.trans (huv.trans (hvw.trans (hwx.trans hxy))), ?_⟩
  have htokens : i.tokens.reverse ++ (opening started ++ ts) =
      .flowMappingEnd :: ((moreTokens i.more).reverse ++ (i.first.tokens.reverse ++
        (.flowMappingStart :: .blockEntry :: (opening started ++ ts)))) := by
    unfold Item.tokens
    simp only [List.reverse_cons, List.reverse_append, List.reverse_nil, List.nil_append,
      List.append_assoc, List.cons_append]
  rw [htokens]
  exact hy

/-- Behind the end of a line comes the start of the next one. -/
theorem Holds.lineEnd {s : Scanner} {ts : List Token} {rest : List Char}
    (h : Holds s 0 false ts ('\n' :: '-' :: rest)) :
    skipToToken (s.place.rest.length + 1) s = s.nextLine ('-' :: rest) ∧
      AtLine (s.nextLine ('-' :: rest)) true ts ('-' :: rest) := by
  constructor
  · rw [skipToToken_break _ s _ h.rest, h.rest, List.length_cons]
    exact skipToToken_here _ _ '-' rest (by decide) rfl
  · refine ⟨h.depth, ?_, h.tokens, rfl, rfl, h.indent, h.outer, h.pending⟩
    have hflow : s.inFlow = false := by
      unfold Scanner.inFlow
      rw [h.depth]
      rfl
    change (s.keyAllowed || !s.inFlow) = true
    rw [hflow]
    exact Bool.or_true _

/-- The lines after the first one. -/
theorem reads_items (items : List Item) (hitems : ∀ i ∈ items, i.Sound) (rest : List Char) :
    ∀ (s : Scanner) (ts : List Token), Holds s 0 false ts (moreLines items ++ rest) →
      ∃ t, Reads s t ∧ Holds t 0 false ((items.flatMap Item.tokens).reverse ++ ts) rest := by
  induction items with
  | nil => exact fun s ts h => ⟨s, .here s, h⟩
  | cons i items ih =>
      intro s ts h
      have hlines :
          moreLines (i :: items) ++ rest = '\n' :: (i.line ++ (moreLines items ++ rest)) := by
        unfold moreLines
        simp only [List.flatMap_cons, List.cons_append, List.append_assoc]
      rw [hlines] at h
      rcases h.lineEnd with ⟨hskip, ht⟩
      rcases reads_item i (hitems i List.mem_cons_self) hskip
        (by rw [h.rest, ht.rest]; exact Nat.le_succ _) ht with ⟨u, hsu, hu⟩
      rcases ih (fun j hj => hitems j (List.mem_cons_of_mem i hj)) u _ hu with ⟨v, huv, hv⟩
      refine ⟨v, hsu.trans huv, ?_⟩
      rw [List.flatMap_cons, List.reverse_append, List.append_assoc]
      exact hv

/-- The text may end with the last line or behind it. -/
theorem Holds.textEnd {s : Scanner} {ts : List Token} {final : List Char}
    (hfinal : final = [] ∨ final = ['\n']) (h : Holds s 0 false ts final) :
    ∃ t key, skipToToken (s.place.rest.length + 1) s = t ∧ Holds t 0 key ts [] := by
  rcases hfinal with rfl | rfl
  · exact ⟨s, false, skipToToken_end _ s h.rest, h⟩
  · refine ⟨s.nextLine [], _, ?_, h.depth, rfl, h.tokens, rfl, h.indent, h.outer, h.pending⟩
    rw [skipToToken_break _ s [] h.rest, h.rest, List.length_singleton]
    exact skipToToken_end _ _ rfl

/-- At the end of the text, the block of the list ends. -/
theorem run_end (s : Scanner) (ts : List Token) (final : List Char)
    (hfinal : final = [] ∨ final = ['\n']) (h : Holds s 0 false ts final) (fuel : Nat)
    (hfuel : 0 < fuel) : run fuel s = .ok (ts.reverse ++ [.blockEnd]) := by
  rcases h.textEnd hfinal with ⟨t, key, hskip, ht⟩
  rcases ht.found hskip with ⟨u, hat, hu, _⟩
  have hclose : u.unwindTo (-1) = { u.push .blockEnd with indent := -1, outer := [] } := by
    unfold unwindTo inFlow
    rw [if_neg (by rw [hu.depth]; decide), hu.outer, unwind, if_pos (by rw [hu.indent]; decide),
      unwind]
  have hrequired : ∀ p ∈ (u.unwindTo (-1)).pending, p.2.required = false := by
    rw [hclose]
    exact hu.required
  have htokens : (u.unwindTo (-1)).dropped.tokens = .blockEnd :: ts := by
    rw [hclose, ← hu.tokens]
    rfl
  have hstep := step_end hat hu.rest
  rw [dropPending_eq _ hrequired] at hstep
  cases fuel with
  | zero => exact absurd hfuel (Nat.lt_irrefl 0)
  | succ fuel =>
      rw [run, hstep]
      change Except.ok (u.unwindTo (-1)).dropped.tokens.reverse = _
      rw [htokens, List.reverse_cons]

end Scanner

/-- A list with a one-line mapping on each line. -/
def listing : List Item → List Char
  | [] => []
  | i :: items => i.line ++ moreLines items

/-- The tokens of a list. -/
def listingTokens (items : List Item) : List Token :=
  .blockSequenceStart :: (items.flatMap Item.tokens ++ [.blockEnd])

/-- The characters of a list: those of words, and the marks between them. -/
def IsPlainText (c : Char) : Prop :=
  c.isAlphanum = true ∨ c ∈ ['"', ':', ' ', ',', '-', '{', '}', '\n']

instance (c : Char) : Decidable (IsPlainText c) :=
  inferInstanceAs (Decidable (_ ∨ _))

theorem Field.isPlainText (f : Field) (hf : f.Sound) : ∀ c ∈ f.written, IsPlainText c := by
  have hcell : ∀ c ∈ f.cell.written, IsPlainText c := by
    intro c hc
    unfold Cell.written at hc
    split at hc
    · rcases List.mem_cons.mp hc with rfl | hc
      · decide
      · rcases List.mem_append.mp hc with hc | hc
        · exact Or.inl (hf.cell.word c hc)
        · rw [List.mem_singleton.mp hc]
          decide
    · exact Or.inl (hf.cell.word c hc)
  intro c hc
  rcases List.mem_append.mp hc with hc | hc
  · exact Or.inl (hf.word c hc)
  · rcases List.mem_cons.mp hc with rfl | hc
    · decide
    · rcases List.mem_cons.mp hc with rfl | hc
      · decide
      · exact hcell c hc

theorem Item.isPlainText (i : Item) (hi : i.Sound) : ∀ c ∈ i.line, IsPlainText c := by
  intro c hc
  unfold Item.line moreWritten at hc
  simp only [List.mem_cons, List.mem_append, List.mem_flatMap, List.not_mem_nil, or_false] at hc
  rcases hc with rfl | rfl | rfl | hc | ⟨f, hf, rfl | rfl | hc⟩ | rfl
  · decide
  · decide
  · decide
  · exact i.first.isPlainText (hi _ List.mem_cons_self) c hc
  · decide
  · decide
  · exact f.isPlainText (hi f (List.mem_cons_of_mem _ hf)) c hc
  · decide

theorem isPlainText_listing (items : List Item) (hitems : ∀ i ∈ items, i.Sound)
    (final : List Char) (hfinal : final = [] ∨ final = ['\n']) :
    ∀ c ∈ listing items ++ final, IsPlainText c := by
  intro c hc
  rcases List.mem_append.mp hc with hc | hc
  · cases items with
    | nil => exact absurd hc List.not_mem_nil
    | cons i items =>
        rcases List.mem_append.mp hc with hc | hc
        · exact i.isPlainText (hitems i List.mem_cons_self) c hc
        · rcases List.mem_flatMap.mp hc with ⟨j, hj, hc⟩
          rcases List.mem_cons.mp hc with rfl | hc
          · decide
          · exact j.isPlainText (hitems j (List.mem_cons_of_mem i hj)) c hc
  · rcases hfinal with rfl | rfl
    · exact absurd hc List.not_mem_nil
    · rw [List.mem_singleton.mp hc]
      decide

theorem isAllowed_of_isPlainText (c : Char) (h : IsPlainText c) : isAllowed c = true := by
  rcases h with h | h
  · have hrange : 0x20 ≤ c.toNat ∧ c.toNat ≤ 0x7E := by
      have hbounds := toNat_of_isAlphanum c h
      omega
    unfold isAllowed
    simp only [hrange, decide_true, Bool.and_self, Bool.or_true, Bool.true_or]
  · have hall : ['"', ':', ' ', ',', '-', '{', '}', '\n'].all isAllowed = true := by decide
    exact List.all_eq_true.mp hall c h

/-- The tokens of a list, with or without the end of its last line. -/
theorem scanTokens_listing (items : List Item) (hne : items ≠ [])
    (hitems : ∀ i ∈ items, i.Sound) (final : List Char) (hfinal : final = [] ∨ final = ['\n']) :
    scanTokens (listing items ++ final) = .ok (listingTokens items) := by
  have hallowed : (listing items ++ final).all isAllowed = true := by
    rw [List.all_eq_true]
    intro c hc
    exact isAllowed_of_isPlainText c (isPlainText_listing items hitems final hfinal c hc)
  rcases List.exists_cons_of_ne_nil hne with ⟨i, items, rfl⟩
  have htext : listing (i :: items) ++ final = i.line ++ (moreLines items ++ final) :=
    List.append_assoc _ _ _
  -- The first line starts where the text does, and no block is open there.
  have hstart : Scanner.AtLine (.start (i.line ++ (moreLines items ++ final))) false []
      (i.line ++ (moreLines items ++ final)) :=
    ⟨rfl, rfl, rfl, rfl, rfl, rfl, rfl, fun p hp => absurd hp List.not_mem_nil⟩
  have hskip := Scanner.skipToToken_here (i.line ++ (moreLines items ++ final)).length
    (.start (i.line ++ (moreLines items ++ final))) '-' _ (by decide) rfl
  rcases Scanner.reads_item i (hitems i List.mem_cons_self) hskip (Nat.le_refl _) hstart with
    ⟨s, hs, hholds⟩
  rcases Scanner.reads_items items (fun j hj => hitems j (List.mem_cons_of_mem i hj)) final s _
    hholds with ⟨t, hst, hend⟩
  rcases Scanner.run_of_reads _ t (hs.trans hst) _ (Nat.lt_succ_self _) with
    ⟨fuel, hfuel, hrun⟩
  have hdone := Scanner.run_end t _ final hfinal hend fuel
    (Nat.lt_of_le_of_lt (Nat.zero_le _) hfuel)
  unfold scanTokens
  rw [if_pos hallowed, htext]
  refine (hrun.trans hdone).trans ?_
  unfold listingTokens
  simp only [List.reverse_append, List.reverse_reverse, List.flatMap_cons, List.append_assoc]
  rfl

end OpcodeForge.Yaml
