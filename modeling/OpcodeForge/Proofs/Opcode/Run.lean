import OpcodeForge.Generation
import OpcodeForge.Proofs.Opcode.Declaration

/-!
# Runs of a Builder

What a builder holds after a whole run: the defaults of a reference, if it was given
one, and then all that a list of instructions declares. Both the slots and the faults
are said by the rows of the run alone. A slot holds what the first row with its opcode
declares, and a row is at fault by itself or because a row before it has its opcode.

Builders change their slots row by row, so the proof carries an invariant: `Holds`
relates a builder to the one that the run started from and to the rows seen since. Its
step is `holds_addRow`, and the only fact it needs about the start is that nothing but
defaults lies in the slots. A default gives way, so what is in the way of a row is
always what an earlier row declared.

## Main definitions

* `rowsOf`: The rows of instructions, in order.
* `entriesAt`: What rows declare with an opcode.
* `firstDeclared?`: What the first of them declares.
* `default?`: The default of a byte.
* `rowFailures`: The faults of rows, in order.
* `referenceFailures`: The faults of a reference, in order.
* `Builder.fresh`: A builder that may have been given a reference.
* `Holds`: What a builder holds after some rows.

## Theorems

* `get?_set`: What the slots hold after an entry has been put in.
* `get?_seedFrom`, `failures_seedFrom`: What seeding leaves.
* `Holds.report`, `Holds.set`: What one row does to the invariant.
* `holds_addRow`, `holds_addRows`, `holds_addAll`, `holds_of_not_overlong`: Rows keep the
  invariant.
* `addAll_fresh`: What a whole run leaves in the slots and reports.
-/

namespace OpcodeForge.Opcode

open Addressing (Registry)
open Specification (Instruction)

/-- The rows of instructions, each with its instruction, in order. -/
def rowsOf (is : List Instruction) : List (Instruction × Row) :=
  is.flatMap fun i => (i.rows.getD []).map (i, ·)

/-- The entry that a row declares, if it declares one with this opcode. -/
def entryAt? (registry : Registry) (b : Int) (x : Instruction × Row) : Option Entry :=
  (declaration registry x.1 x.2).toOption.filter (·.opcode == b)

/-- The entries that rows declare with an opcode, in order. -/
def entriesAt (registry : Registry) (b : Int) (rows : List (Instruction × Row)) :
    List Entry :=
  rows.filterMap (entryAt? registry b)

/-- The entry that the first row with an opcode declares. -/
def firstDeclared? (registry : Registry) (b : Int) (rows : List (Instruction × Row)) :
    Option Entry :=
  (entriesAt registry b rows).head?

/-- The default that the row of a byte puts in. -/
def default? (registry : Registry) (k : Nat) (r : ReferenceRow) : Option Entry :=
  if Builder.seeds registry r then some (.ofReference k r) else none

/-- What is wrong with a row that comes after others. -/
def rowFailure? (registry : Registry) (before : List (Instruction × Row))
    (x : Instruction × Row) : Option Failure :=
  match declaration registry x.1 x.2 with
  | .error f => some f
  | .ok e =>
    -- The report names the row that came first, and not the one just before.
    (firstDeclared? registry e.opcode before).map fun first =>
      .opcodeConflict e.opcode first.source e.source

/-- What is wrong with rows that come after others, in order. -/
def rowFailures (registry : Registry) (before : List (Instruction × Row)) :
    List (Instruction × Row) → List Failure
  | [] => []
  | x :: rest =>
    (rowFailure? registry before x).toList ++ rowFailures registry (before ++ [x]) rest

/-- What is wrong with the row of a byte in a reference. -/
def referenceFailure? (registry : Registry) (k : Nat) (r : ReferenceRow) :
    Option Failure :=
  if isPlaceholder r.name && !registry.isEnabledCode r.mode then
    some (.unsupportedMode defaultSource r.mode (Number.upperHexKey k))
  else none

/-- What is wrong with the rows of a reference from byte `k` on, in order. -/
def referenceFailures (registry : Registry) (k : Nat) : List ReferenceRow → List Failure
  | [] => []
  | r :: rows =>
    (referenceFailure? registry k r).toList ++ referenceFailures registry (k + 1) rows

/-- A builder before its first instruction, with the defaults of a reference if there
    is one. -/
def Builder.fresh (registry : Registry) (reference : Option (List ReferenceRow)) :
    Except Failure Builder :=
  match reference with
  | none => .ok (.empty registry)
  | some rows => ((Builder.empty registry).seed rows).map (·.1)

namespace Builder

/-- After an entry has been put in, its slot holds it, and the others hold what they
    held. -/
theorem get?_set (b : Builder) (i k : Fin opcodeSpace) (e : Entry) :
    (b.set i e).get? k = if i = k then some e else b.get? k := by
  unfold get? set
  simp only [Fin.getElem_fin, Vector.getElem_set, Fin.ext_iff]

theorem get?_report (b : Builder) (f : Failure) (k : Fin opcodeSpace) :
    (b.report f).get? k = b.get? k := rfl

/-- The number of a byte is that of its slot. -/
theorem slotOf?_byte (k : Fin opcodeSpace) : slotOf? (k.val : Int) = some k := by
  have hk := k.isLt
  have hneg : ¬ ((k.val : Int) < 0) := by omega
  unfold slotOf?
  simp only [if_neg hneg]
  rw [dif_pos ⟨by omega, by omega⟩]
  rfl

theorem registry_seedRow (b : Builder) (i : Fin opcodeSpace) (r : ReferenceRow) :
    (b.seedRow i r).registry = b.registry := by
  unfold seedRow
  split
  · rfl
  · split <;> rfl

/-- A row of a reference only ever touches the slot of its byte. -/
theorem get?_seedRow (b : Builder) (i k : Fin opcodeSpace) (r : ReferenceRow) :
    (b.seedRow i r).get? k
      = if i = k then (default? b.registry k r).or (b.get? k) else b.get? k := by
  unfold seedRow default? seeds
  cases hname : isPlaceholder r.name with
  | false =>
      simp only [Bool.not_false, if_true, Bool.false_and, Bool.false_eq_true, if_false,
        Option.none_or, ite_self]
  | true =>
      cases hmode : b.registry.isEnabledCode r.mode with
      | false =>
          simp only [Bool.not_true, Bool.false_eq_true, if_false, Bool.and_false,
            Option.none_or, ite_self, get?_report]
      | true =>
          simp only [Bool.not_true, Bool.false_eq_true, if_false, Bool.and_true, if_true,
            Option.some_or, get?_set]
          by_cases hik : i = k
          · rw [if_pos hik, if_pos hik, hik]
          · rw [if_neg hik, if_neg hik]

theorem failures_seedRow (b : Builder) (i : Fin opcodeSpace) (r : ReferenceRow) :
    (b.seedRow i r).failures
      = b.failures ++ (referenceFailure? b.registry i r).toList := by
  unfold seedRow referenceFailure?
  cases hname : isPlaceholder r.name with
  | false =>
      simp only [Bool.not_false, if_true, Bool.false_and, Bool.false_eq_true, if_false,
        Option.toList_none, List.append_nil]
  | true =>
      cases hmode : b.registry.isEnabledCode r.mode with
      | false => rfl
      | true =>
          simp only [Bool.not_true, Bool.false_eq_true, if_false, if_true, Bool.and_false,
            Option.toList_none, List.append_nil]
          rfl

/-- Seeding from byte `i` on puts the default of each later byte in its slot, where
    its row has one. -/
theorem get?_seedFrom (rows : List ReferenceRow) (b : Builder) (i : Nat)
    (k : Fin opcodeSpace) (h : i + rows.length ≤ opcodeSpace) :
    (b.seedFrom i rows).get? k
      = if i ≤ k.val then (rows[k.val - i]?.bind (default? b.registry k)).or (b.get? k)
        else b.get? k := by
  induction rows generalizing b i with
  | nil => simp only [seedFrom, List.getElem?_nil, Option.bind_none, Option.none_or, ite_self]
  | cons r rest ih =>
      rw [List.length_cons] at h
      have hi : i < opcodeSpace := by omega
      unfold seedFrom
      rw [dif_pos hi, ih _ _ (by omega), registry_seedRow, get?_seedRow]
      rcases Nat.lt_trichotomy i k.val with hlt | heq | hgt
      · -- A later byte: its row is one of the rest.
        have hne : (⟨i, hi⟩ : Fin opcodeSpace) ≠ k := Fin.ne_of_val_ne (Nat.ne_of_lt hlt)
        rw [if_pos (show i + 1 ≤ k.val by omega), if_neg hne,
          if_pos (show i ≤ k.val by omega),
          show k.val - i = k.val - (i + 1) + 1 by omega, List.getElem?_cons_succ]
      · -- The byte itself: none of the rest touches its slot again.
        have hk : (⟨i, hi⟩ : Fin opcodeSpace) = k := Fin.ext heq
        rw [if_neg (show ¬ i + 1 ≤ k.val by omega), if_pos hk,
          if_pos (show i ≤ k.val by omega), heq, Nat.sub_self, List.getElem?_cons_zero,
          Option.bind_some]
      · have hne : (⟨i, hi⟩ : Fin opcodeSpace) ≠ k := Fin.ne_of_val_ne (Nat.ne_of_gt hgt)
        rw [if_neg (show ¬ i + 1 ≤ k.val by omega), if_neg hne,
          if_neg (show ¬ i ≤ k.val by omega)]

theorem failures_seedFrom (rows : List ReferenceRow) (b : Builder) (i : Nat)
    (h : i + rows.length ≤ opcodeSpace) :
    (b.seedFrom i rows).failures = b.failures ++ referenceFailures b.registry i rows := by
  induction rows generalizing b i with
  | nil => simp only [seedFrom, referenceFailures, List.append_nil]
  | cons r rest ih =>
      rw [List.length_cons] at h
      have hi : i < opcodeSpace := by omega
      unfold seedFrom referenceFailures
      rw [dif_pos hi, ih _ _ (by omega), failures_seedRow, registry_seedRow, List.append_assoc]

theorem registry_seedFrom (rows : List ReferenceRow) (b : Builder) (i : Nat) :
    (b.seedFrom i rows).registry = b.registry := by
  induction rows generalizing b i with
  | nil => rfl
  | cons r rest ih =>
      unfold seedFrom
      split
      · rw [ih, registry_seedRow]
      · rfl

/-- Putting in an entry that no declaration is in the way of. -/
theorem insert_ok (b : Builder) (k : Fin opcodeSpace) (e : Entry) (hk : e.opcode = k.val)
    (hslot : ∀ old, b.get? k = some old → old.isDefault = true) :
    b.insert e = .ok (b.set k e) := by
  unfold insert
  rw [hk, slotOf?_byte]
  simp only []
  cases hold : b.get? k with
  | none => rfl
  | some old => simp only [hslot old hold, if_true]

/-- Putting in an entry where a declaration is in the way. -/
theorem insert_conflict (b : Builder) (k : Fin opcodeSpace) (e old : Entry)
    (hk : e.opcode = k.val) (hold : b.get? k = some old) (hdef : old.isDefault = false) :
    b.insert e = .error (.failure (.opcodeConflict e.opcode old.source e.source)) := by
  unfold insert
  rw [hk, slotOf?_byte]
  simp only [hold, hdef, Bool.false_eq_true, if_false]

end Builder

/-- What a builder holds after rows that were added to another one, in whose slots
    there was nothing but defaults. -/
structure Holds (start : Builder) (seen : List (Instruction × Row)) (b : Builder) :
    Prop where
  registry : b.registry = start.registry
  slots : ∀ k : Fin opcodeSpace,
    b.get? k = (firstDeclared? start.registry k.val seen).or (start.get? k)
  failures : b.failures = start.failures ++ rowFailures start.registry [] seen

theorem rowFailures_append (registry : Registry) (xs : List (Instruction × Row)) :
    ∀ before ys : List (Instruction × Row), rowFailures registry before (xs ++ ys)
      = rowFailures registry before xs ++ rowFailures registry (before ++ xs) ys := by
  induction xs with
  | nil => intro before ys; rw [List.append_nil]; rfl
  | cons x rest ih =>
      intro before ys
      simp only [List.cons_append, rowFailures, ih, List.append_assoc, List.nil_append]

/-- The row that comes last adds its own fault and no other. -/
theorem rowFailures_concat (registry : Registry) (seen : List (Instruction × Row))
    (x : Instruction × Row) : rowFailures registry [] (seen ++ [x])
      = rowFailures registry [] seen ++ (rowFailure? registry seen x).toList := by
  rw [rowFailures_append, List.nil_append]
  simp only [rowFailures, List.append_nil]

theorem firstDeclared?_concat (registry : Registry) (b : Int)
    (seen : List (Instruction × Row)) (x : Instruction × Row) :
    firstDeclared? registry b (seen ++ [x])
      = (firstDeclared? registry b seen).or (entryAt? registry b x) := by
  unfold firstDeclared? entriesAt
  rw [List.filterMap_append, List.head?_append]
  cases hx : entryAt? registry b x with
  | none => rw [List.filterMap_cons_none hx]; rfl
  | some e => rw [List.filterMap_cons_some hx]; rfl

theorem entryAt?_of_error (registry : Registry) (b : Int) (x : Instruction × Row)
    (f : Failure) (h : declaration registry x.1 x.2 = .error f) :
    entryAt? registry b x = none := by
  unfold entryAt?
  rw [h]
  rfl

theorem entryAt?_of_ok (registry : Registry) (b : Int) (x : Instruction × Row) (e : Entry)
    (h : declaration registry x.1 x.2 = .ok e) :
    entryAt? registry b x = if e.opcode = b then some e else none := by
  unfold entryAt?
  rw [h]
  simp only [Except.toOption, Option.filter_some, beq_iff_eq]

/-- What the first row declares was declared by one of the rows. -/
theorem declares_of_firstDeclared? (registry : Registry) (b : Int)
    (rows : List (Instruction × Row)) (e : Entry) (h : firstDeclared? registry b rows = some e) :
    e.opcode = b ∧ ∃ x ∈ rows, Declares registry x.1 x.2 e := by
  rcases List.mem_filterMap.mp (List.mem_of_head? h) with ⟨x, hx, hat⟩
  cases hd : declaration registry x.1 x.2 with
  | error f =>
      rw [entryAt?_of_error registry b x f hd] at hat
      exact absurd hat (by simp only [reduceCtorEq, not_false_eq_true])
  | ok e' =>
      rw [entryAt?_of_ok registry b x e' hd] at hat
      by_cases hb : e'.opcode = b
      · rw [if_pos hb] at hat
        have he : e' = e := Option.some.inj hat
        rw [he] at hb hd
        exact ⟨hb, x, hx, (declaration_eq_ok_iff registry x.1 x.2 e).mp hd⟩
      · rw [if_neg hb] at hat
        exact absurd hat (by simp only [reduceCtorEq, not_false_eq_true])

/-- A row that is at fault is never the first with an opcode. -/
theorem firstDeclared?_concat_of_fault (registry : Registry) (b : Int)
    (seen : List (Instruction × Row)) (x : Instruction × Row) (f : Failure)
    (h : rowFailure? registry seen x = some f) :
    firstDeclared? registry b (seen ++ [x]) = firstDeclared? registry b seen := by
  rw [firstDeclared?_concat]
  unfold rowFailure? at h
  cases hd : declaration registry x.1 x.2 with
  | error g => rw [entryAt?_of_error registry b x g hd, Option.or_none]
  | ok e =>
      rw [hd] at h
      rcases Option.map_eq_some_iff.mp h with ⟨first, hfirst, -⟩
      rw [entryAt?_of_ok registry b x e hd]
      by_cases hb : e.opcode = b
      · -- A row before it has the opcode already.
        rw [if_pos hb, ← hb, hfirst]
        rfl
      · rw [if_neg hb, Option.or_none]

/-- Reporting a row that is at fault keeps the invariant. -/
theorem Holds.report (start b : Builder) (seen : List (Instruction × Row))
    (x : Instruction × Row) (f : Failure) (h : Holds start seen b)
    (hf : rowFailure? start.registry seen x = some f) :
    Holds start (seen ++ [x]) (b.report f) := by
  refine ⟨h.registry, fun k => ?_, ?_⟩
  · rw [Builder.get?_report, h.slots k, firstDeclared?_concat_of_fault _ _ seen x f hf]
  · rw [rowFailures_concat, hf]
    simp only [Builder.report, h.failures, Option.toList_some, List.append_assoc]

/-- Putting in what the first row with an opcode declares keeps the invariant. -/
theorem Holds.set (start b : Builder) (seen : List (Instruction × Row))
    (x : Instruction × Row) (k : Fin opcodeSpace) (e : Entry) (h : Holds start seen b)
    (hd : declaration start.registry x.1 x.2 = .ok e) (hk : e.opcode = k.val)
    (hfirst : firstDeclared? start.registry k.val seen = none) :
    Holds start (seen ++ [x]) (b.set k e) := by
  refine ⟨h.registry, fun j => ?_, ?_⟩
  · rw [Builder.get?_set, firstDeclared?_concat, entryAt?_of_ok _ _ x e hd, hk]
    by_cases hkj : k = j
    · rw [if_pos hkj, ← hkj, hfirst, if_pos rfl]
      rfl
    · have hval : ¬ ((k.val : Int) = j.val) := fun hc => hkj (Fin.ext (by omega))
      rw [if_neg hkj, if_neg hval, Option.or_none, h.slots j]
  · rw [rowFailures_concat]
    simp only [rowFailure?, hd, hk, hfirst, Option.map_none, Option.toList_none, List.append_nil]
    exact h.failures

/-- Reading a row and putting in what it declares. -/
theorem Builder.addRow_eq (b : Builder) (i : Instruction) (r : Row)
    (hr : ¬Overlong b.registry i r) :
    b.addRow i r = match declaration b.registry i r with
      | .ok e => b.insert e
      | .error f => .error (.failure f) := by
  unfold Builder.addRow
  rw [entryOf_eq b.registry i r hr]
  cases declaration b.registry i r <;> rfl

/-- A row keeps the invariant, be it put in or reported, and never stops the run. -/
theorem holds_addRow (start b : Builder) (seen : List (Instruction × Row))
    (i : Instruction) (r : Row) (hr : ¬Overlong start.registry i r)
    (hstart : ∀ k e, start.get? k = some e → e.isDefault = true)
    (h : Holds start seen b) :
    (∃ b', b.addRow i r = .ok b' ∧ Holds start (seen ++ [(i, r)]) b') ∨
      (∃ f, b.addRow i r = .error (.failure f) ∧
        Holds start (seen ++ [(i, r)]) (b.report f)) := by
  rw [b.addRow_eq i r (h.registry ▸ hr), h.registry]
  cases hd : declaration start.registry i r with
  | error f =>
      have hfault : rowFailure? start.registry seen (i, r) = some f := by
        simp only [rowFailure?, hd]
      exact Or.inr ⟨f, rfl, h.report start b seen (i, r) f hfault⟩
  | ok e =>
      have hdec := (declaration_eq_ok_iff start.registry i r e).mp hd
      rcases opcode_of_declares start.registry i r e hdec with ⟨k, hk⟩
      cases hfirst : firstDeclared? start.registry k.val seen with
      | none =>
          -- Only a default can be in the way, and it gives way.
          have hslot : ∀ old, b.get? k = some old → old.isDefault = true := by
            intro old hold
            rw [h.slots k, hfirst, Option.none_or] at hold
            exact hstart k old hold
          exact Or.inl ⟨b.set k e, b.insert_ok k e hk hslot,
            h.set start b seen (i, r) k e hd hk hfirst⟩
      | some old =>
          have hold : b.get? k = some old := by
            rw [h.slots k, hfirst]
            rfl
          rcases declares_of_firstDeclared? _ _ _ _ hfirst with ⟨-, x, -, hx⟩
          have hfault : rowFailure? start.registry seen (i, r)
              = some (.opcodeConflict e.opcode old.source e.source) := by
            simp only [rowFailure?, hd, hk, hfirst, Option.map_some]
          exact Or.inr ⟨_, b.insert_conflict k e old hk hold (not_isDefault_of_declares _ _ _ _ hx),
            h.report start b seen (i, r) _ hfault⟩

theorem holds_addRows (start : Builder) (i : Instruction)
    (hstart : ∀ k e, start.get? k = some e → e.isDefault = true) (rows : List Row)
    (hr : ∀ r ∈ rows, ¬Overlong start.registry i r) :
    ∀ (b : Builder) (added : Nat) (seen : List (Instruction × Row)), Holds start seen b →
      ∃ b' count, Builder.addRows i b added rows = (b', .ok count) ∧
        Holds start (seen ++ rows.map (i, ·)) b' := by
  induction rows with
  | nil =>
      intro b added seen h
      refine ⟨b, added, rfl, ?_⟩
      rw [List.map_nil, List.append_nil]
      exact h
  | cons r rest ih =>
      intro b added seen h
      have hrest := ih fun r' hr' => hr r' (List.mem_cons_of_mem r hr')
      rw [List.map_cons, List.append_cons]
      unfold Builder.addRows
      rcases holds_addRow start b seen i r (hr r List.mem_cons_self) hstart h with
        ⟨b', hadd, h'⟩ | ⟨f, hadd, h'⟩
      · rw [hadd]
        exact hrest b' (added + 1) _ h'
      · rw [hadd]
        exact hrest (b.report f) added _ h'

theorem holds_addAll (start : Builder)
    (hstart : ∀ k e, start.get? k = some e → e.isDefault = true) (is : List Instruction)
    (hr : ∀ x ∈ rowsOf is, ¬Overlong start.registry x.1 x.2) :
    ∀ (b : Builder) (seen : List (Instruction × Row)), Holds start seen b →
      ∃ b' log, Generator.addAll b is = (b', log, .ok ()) ∧
        Holds start (seen ++ rowsOf is) b' := by
  induction is with
  | nil =>
      intro b seen h
      refine ⟨b, [], rfl, ?_⟩
      rw [show rowsOf [] = [] from rfl, List.append_nil]
      exact h
  | cons i rest ih =>
      intro b seen h
      have hcons : rowsOf (i :: rest) = (i.rows.getD []).map (i, ·) ++ rowsOf rest := rfl
      rw [hcons] at hr
      rcases holds_addRows start i hstart (i.rows.getD [])
        (fun r hmem => hr (i, r) (List.mem_append_left _ (List.mem_map_of_mem hmem)))
        b 0 seen h with ⟨b₁, count, hadd, h₁⟩
      rcases ih (fun x hx => hr x (List.mem_append_right _ hx)) b₁ _ h₁ with ⟨b₂, log, hall, h₂⟩
      refine ⟨b₂, Generator.addedLine i count :: log, ?_, ?_⟩
      · unfold Generator.addAll Builder.add
        rw [hadd]
        simp only [hall]
      · rw [hcons, ← List.append_assoc]
        exact h₂

theorem get?_empty (registry : Registry) (k : Fin opcodeSpace) :
    (Builder.empty registry).get? k = none := by
  unfold Builder.get? Builder.empty
  simp only [Fin.getElem_fin, Vector.getElem_replicate]

/-- A fresh builder has the defaults of its reference and their faults. -/
theorem exists_fresh_eq_ok (registry : Registry) (reference : Option (List ReferenceRow))
    (hlen : ∀ rows ∈ reference, rows.length = opcodeSpace) :
    ∃ b, Builder.fresh registry reference = .ok b ∧ b.registry = registry ∧
      (∀ k : Fin opcodeSpace,
        b.get? k = (reference.getD [])[k.val]?.bind (default? registry k)) ∧
      b.failures = referenceFailures registry 0 (reference.getD []) := by
  cases reference with
  | none => exact ⟨.empty registry, rfl, rfl, get?_empty registry, rfl⟩
  | some rows =>
      have hrows : rows.length = opcodeSpace := hlen rows rfl
      have hseed : (Builder.empty registry).seed rows
          = .ok ((Builder.empty registry).seedFrom 0 rows,
            rows.countP (Builder.seeds registry)) := by
        unfold Builder.seed checkReference
        rw [if_pos hrows]
        rfl
      refine ⟨(Builder.empty registry).seedFrom 0 rows, ?_, ?_, fun k => ?_, ?_⟩
      · unfold Builder.fresh
        simp only [hseed]
        rfl
      · exact Builder.registry_seedFrom rows _ 0
      · rw [Builder.get?_seedFrom rows _ 0 k (by omega), if_pos (Nat.zero_le _),
          get?_empty, Option.or_none]
        rfl
      · exact Builder.failures_seedFrom rows _ 0 (by omega)

theorem isDefault_of_default? (registry : Registry) (reference : List ReferenceRow)
    (k : Nat) (e : Entry) (h : reference[k]?.bind (default? registry k) = some e) :
    e.isDefault = true := by
  rcases Option.bind_eq_some_iff.mp h with ⟨r, _, hr⟩
  unfold default? at hr
  split at hr
  · rw [← Option.some.inj hr]
    exact beq_self_eq_true defaultSource
  · exact absurd hr (by simp only [reduceCtorEq, not_false_eq_true])

/-- A whole run keeps the invariant from the start on, where it holds of no rows. -/
theorem holds_of_not_overlong (registry : Registry) (reference : Option (List ReferenceRow))
    (is : List Instruction) (hlen : ∀ rows ∈ reference, rows.length = opcodeSpace)
    (hread : ∀ x ∈ rowsOf is, ¬Overlong registry x.1 x.2) :
    ∃ start b log, Builder.fresh registry reference = .ok start ∧
      Generator.addAll start is = (b, log, .ok ()) ∧ start.registry = registry ∧
      (∀ k : Fin opcodeSpace,
        start.get? k = (reference.getD [])[k.val]?.bind (default? registry k)) ∧
      start.failures = referenceFailures registry 0 (reference.getD []) ∧
      Holds start (rowsOf is) b := by
  rcases exists_fresh_eq_ok registry reference hlen with ⟨start, hfresh, hreg, hslots, hfail⟩
  have hstart : ∀ k e, start.get? k = some e → e.isDefault = true := by
    intro k e he
    rw [hslots k] at he
    exact isDefault_of_default? registry _ k e he
  have h₀ : Holds start [] start := by
    refine ⟨rfl, fun k => rfl, ?_⟩
    rw [show rowFailures start.registry [] [] = [] from rfl, List.append_nil]
  rcases holds_addAll start hstart is (hreg ▸ hread) start [] h₀ with ⟨b, log, hrun, h⟩
  rw [List.nil_append] at h
  exact ⟨start, b, log, hfresh, hrun, hreg, hslots, hfail, h⟩

/-- Rows whose cycles can be read are not in the way. -/
theorem holds_fresh (registry : Registry) (reference : Option (List ReferenceRow))
    (is : List Instruction) (hlen : ∀ rows ∈ reference, rows.length = opcodeSpace)
    (hread : ∀ x ∈ rowsOf is, x.2.HasReadableCycles) :
    ∃ start b log, Builder.fresh registry reference = .ok start ∧
      Generator.addAll start is = (b, log, .ok ()) ∧ start.registry = registry ∧
      (∀ k : Fin opcodeSpace,
        start.get? k = (reference.getD [])[k.val]?.bind (default? registry k)) ∧
      start.failures = referenceFailures registry 0 (reference.getD []) ∧
      Holds start (rowsOf is) b :=
  holds_of_not_overlong registry reference is hlen fun x hx hlong => hlong.2 (hread x hx)

/-- A whole run. Each slot holds what the first row with its opcode declares, or else
    the default of its byte. The faults are those of the reference and then those of
    the rows, one for each row that is not the first with its opcode or declares
    nothing at all. -/
theorem addAll_fresh (registry : Registry) (reference : Option (List ReferenceRow))
    (is : List Instruction) (hlen : ∀ rows ∈ reference, rows.length = opcodeSpace)
    (hread : ∀ x ∈ rowsOf is, x.2.HasReadableCycles) :
    ∃ start b log, Builder.fresh registry reference = .ok start ∧
      Generator.addAll start is = (b, log, .ok ()) ∧
      (∀ k : Fin opcodeSpace, b.get? k = (firstDeclared? registry k.val (rowsOf is)).or
        ((reference.getD [])[k.val]?.bind (default? registry k))) ∧
      b.failures = referenceFailures registry 0 (reference.getD [])
        ++ rowFailures registry [] (rowsOf is) := by
  rcases holds_fresh registry reference is hlen hread with
    ⟨start, b, log, hfresh, hrun, hreg, hslots, hfail, h⟩
  refine ⟨start, b, log, hfresh, hrun, fun k => ?_, ?_⟩
  · rw [h.slots k, hreg, hslots k]
  · rw [h.failures, hreg, hfail]

/-- Two instructions that declare one opcode, with other faults in between. -/
def twoLoads : List Instruction := [
  ⟨"LDA", "", some [⟨["Immediate", "", "$EA", "2", "2"]⟩, ⟨["Immediate", "", "$A9"]⟩,
    ⟨["Relative", "", "$A9", "2", "x"]⟩, ⟨["Absolute,X", "", "$EA", "3", "4+"]⟩], ""⟩,
  ⟨"LDX", "", some [⟨["Zero Page", "", "$ea", "2", "3"]⟩], "a"⟩]

set_option maxRecDepth 4000 in
/-- The first of three rows with the opcode replaces the default, and the others are
    reported, two of them against it. -/
theorem addAll_fresh_twoLoads :
    let reference := List.replicate opcodeSpace ⟨"imp", "NOP", .count 2⟩
    (∀ rows ∈ some reference, rows.length = opcodeSpace) ∧
      (∀ x ∈ rowsOf twoLoads, x.2.HasReadableCycles) ∧
      ∃ start b log, Builder.fresh Registry.default (some reference) = .ok start ∧
        Generator.addAll start twoLoads = (b, log, .ok ()) ∧
        b.get? ⟨0xEA, by decide⟩
          = some ⟨0xEA, "imm", "LDA", .count 2, false, "", "LDA (Immediate)"⟩ ∧
        b.get? ⟨0, by decide⟩ = some ⟨0, "imp", "NOP", .count 2, false, "", defaultSource⟩ ∧
        b.failures = [
          .malformedRow "LDA" ["Immediate", "", "$A9"] (.tooShort 3),
          .unsupportedMode "LDA" "Relative" "A9",
          .opcodeConflict 0xEA "LDA (Immediate)" "LDA (Absolute,X)",
          .opcodeConflict 0xEA "LDA (Immediate)" "LDX (Zero Page)"] := by
  intro reference
  have hlen : ∀ rows ∈ some reference, rows.length = opcodeSpace := by
    intro rows hrows
    rw [← Option.some.inj hrows, List.length_replicate]
  have hread : ∀ x ∈ rowsOf twoLoads, x.2.HasReadableCycles := by decide
  rcases addAll_fresh Registry.default (some reference) twoLoads hlen hread with
    ⟨start, b, log, hfresh, hrun, hslots, hfail⟩
  refine ⟨hlen, hread, start, b, log, hfresh, hrun, ?_, ?_, ?_⟩
  · rw [hslots ⟨0xEA, by decide⟩]
    rfl
  · rw [hslots ⟨0, by decide⟩]
    rfl
  · rw [hfail]
    rfl

end OpcodeForge.Opcode
