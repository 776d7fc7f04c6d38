import Mathlib.Data.Finset.Card
import Mathlib.Data.Fintype.Basic
import OpcodeForge.Proofs.Opcode.Faults
import OpcodeForge.Proofs.Opcode.Slots

/-!
# Order of Declarations

The first of two rows with one opcode is stored and the other is reported, so which row
is which depends on the order in which instructions come and in which each lists its rows.
How many reports there are does not, and neither does a table that is built.

The count needs no run. Every row is either at fault or the first with its byte, so the
faults are as many as the rows without the bytes that are declared (`length_rowFailures`),
and both of these are blind to the order. If there is no fault at all then each byte is
declared at most once, and then what the first row with it declares is what any row does.

Instructions in another order have other rows, so their rows are not a permutation of each
other: a row stands with its instruction, and that lists its rows in another order now.
What a row declares does not look at that list, and it is the declarations that are
permuted (`perm_declarations`).

## Main definitions

* `Reordered`: An instruction with its rows in another order.
* `Shuffled`: Instructions in another order, each with its rows in another order.
* `declarations`: What rows declare, or what is wrong with them.
* `declaredBytes`: The bytes that rows declare.

## Theorems

* `length_rowFailures`: Each row is at fault or the first with its byte.
* `perm_declarations`: Shuffled instructions declare the same.
* `declaredBytes_congr`, `length_rowFailures_congr`: What another order keeps.
* `firstDeclared?_congr`: Without faults, another order declares the same everywhere.
* `placeholders_congr`: Only the set of the defined names counts for the placeholders.
* `build_shuffled`: What another order does to a whole run.
-/

namespace OpcodeForge.Opcode

open Addressing (Registry)
open Specification (Instruction)

/-- An instruction with its rows in another order. -/
structure Reordered (i j : Instruction) : Prop where
  identifier : j.identifier = i.identifier
  implementation : j.implementation = i.implementation
  additionalCodes : j.additionalCodes = i.additionalCodes
  rows : Option.Rel List.Perm i.rows j.rows

/-- Instructions in another order, each with its rows in another order. -/
def Shuffled (is js : List Instruction) : Prop :=
  ∃ ks, is.Perm ks ∧ List.Forall₂ Reordered ks js

/-- What rows declare, or what is wrong with them. -/
def declarations (registry : Registry) (rows : List (Instruction × Row)) :
    List (Except Failure Entry) :=
  rows.map fun x => declaration registry x.1 x.2

/-- The bytes that rows declare. -/
def declaredBytes (registry : Registry) (rows : List (Instruction × Row)) :
    Finset (Fin opcodeSpace) :=
  Finset.univ.filter fun k => (firstDeclared? registry k.val rows).isSome

theorem mem_declaredBytes (registry : Registry) (rows : List (Instruction × Row))
    (k : Fin opcodeSpace) :
    k ∈ declaredBytes registry rows ↔ (firstDeclared? registry k.val rows).isSome = true := by
  simp [declaredBytes]

theorem declaredBytes_nil (registry : Registry) : declaredBytes registry [] = ∅ := by
  ext k
  rw [mem_declaredBytes]
  simp [firstDeclared?, entriesAt]

theorem declaredBytes_concat_of_fault (registry : Registry) (seen : List (Instruction × Row))
    (x : Instruction × Row) (f : Failure) (h : rowFailure? registry seen x = some f) :
    declaredBytes registry (seen ++ [x]) = declaredBytes registry seen := by
  ext k
  rw [mem_declaredBytes, mem_declaredBytes, firstDeclared?_concat_of_fault _ _ seen x f h]

/-- A row without a fault declares a byte that no row before it does. -/
theorem exists_declaredBytes_concat (registry : Registry) (seen : List (Instruction × Row))
    (x : Instruction × Row) (h : rowFailure? registry seen x = none) :
    ∃ k, k ∉ declaredBytes registry seen ∧
      declaredBytes registry (seen ++ [x]) = insert k (declaredBytes registry seen) := by
  unfold rowFailure? at h
  cases hd : declaration registry x.1 x.2 with
  | error f =>
      rw [hd] at h
      exact absurd h (by simp only [reduceCtorEq, not_false_eq_true])
  | ok e =>
      simp only [hd, Option.map_eq_none_iff] at h
      rcases opcode_of_declares registry x.1 x.2 e
        ((declaration_eq_ok_iff registry x.1 x.2 e).mp hd) with ⟨k, hk⟩
      refine ⟨k, ?_, ?_⟩
      · rw [mem_declaredBytes, ← hk, h]
        decide
      · ext j
        rw [Finset.mem_insert, mem_declaredBytes, mem_declaredBytes, firstDeclared?_concat,
          entryAt?_of_ok registry j.val x e hd, hk]
        by_cases hjk : j = k
        · rw [hjk, if_pos rfl]
          simp
        · have hval : ¬((k.val : Int) = j.val) := fun hc => hjk (Fin.ext (by omega))
          rw [if_neg hval, Option.or_none]
          simp [hjk]

/-- Each row is at fault or the first with its byte. -/
theorem length_rowFailures (registry : Registry) (rows : List (Instruction × Row)) :
    (rowFailures registry [] rows).length + (declaredBytes registry rows).card
      = rows.length := by
  induction rows using List.reverseRecOn with
  | nil => simp [rowFailures, declaredBytes_nil]
  | append_singleton seen x ih =>
      rw [rowFailures_concat, List.length_append, List.length_append, List.length_singleton]
      cases hf : rowFailure? registry seen x with
      | some f =>
          rw [declaredBytes_concat_of_fault registry seen x f hf, Option.toList_some,
            List.length_singleton]
          omega
      | none =>
          rcases exists_declaredBytes_concat registry seen x hf with ⟨k, hk, hinsert⟩
          rw [hinsert, Finset.card_insert_of_notMem hk, Option.toList_none, List.length_nil]
          omega

theorem entriesAt_eq (registry : Registry) (b : Int) (rows : List (Instruction × Row)) :
    entriesAt registry b rows
      = (declarations registry rows).filterMap fun d => d.toOption.filter (·.opcode == b) := by
  unfold entriesAt declarations
  rw [List.filterMap_map]
  rfl

/-- Of an instruction only its name and its further code count for what a row declares. -/
theorem Reordered.declaration_eq (registry : Registry) (i j : Instruction) (r : Row)
    (h : Reordered i j) : declaration registry j r = declaration registry i r := by
  unfold declaration Entry.ofColumns
  rw [h.identifier, h.additionalCodes]

theorem Reordered.perm_rows (i j : Instruction) (h : Reordered i j) :
    (i.rows.getD []).Perm (j.rows.getD []) := by
  have hrows := h.rows
  cases hi : i.rows with
  | none =>
      cases hj : j.rows with
      | none => exact List.Perm.refl _
      | some rows =>
          rw [hi, hj] at hrows
          cases hrows
  | some rows =>
      cases hj : j.rows with
      | none =>
          rw [hi, hj] at hrows
          cases hrows
      | some rows' =>
          rw [hi, hj] at hrows
          cases hrows with
          | some hperm => exact hperm

/-- What is read off the rows of shuffled instructions is the same in another order, if it
    does not look at the list of rows that an instruction has. -/
theorem perm_map_rowsOf {α : Type} (f : Instruction × Row → α)
    (hf : ∀ i j r, Reordered i j → f (j, r) = f (i, r)) (is js : List Instruction)
    (h : Shuffled is js) : ((rowsOf is).map f).Perm ((rowsOf js).map f) := by
  rcases h with ⟨ks, hperm, hrows⟩
  have hsame : ((rowsOf ks).map f).Perm ((rowsOf js).map f) := by
    induction hrows generalizing is with
    | nil => exact List.Perm.refl _
    | @cons i j ks js hij _ ih =>
        have hone : (((i.rows.getD []).map (i, ·)).map f).Perm
            (((j.rows.getD []).map (j, ·)).map f) := by
          have hfun : (f ∘ fun r : Row => (j, r)) = f ∘ fun r : Row => (i, r) :=
            funext fun r => hf i j r hij
          rw [List.map_map, List.map_map, hfun]
          exact (Reordered.perm_rows i j hij).map _
        have hcons : ∀ (k : Instruction) (rest : List Instruction),
            rowsOf (k :: rest) = (k.rows.getD []).map (k, ·) ++ rowsOf rest := fun _ _ => rfl
        rw [hcons, hcons, List.map_append, List.map_append]
        exact hone.append (ih ks (List.Perm.refl _))
  exact ((hperm.flatMap_right _).map f).trans hsame

/-- What is read off shuffled instructions is the same in another order, if it does not
    look at their rows. -/
theorem perm_map_of_shuffled {α : Type} (f : Instruction → α)
    (hf : ∀ i j, Reordered i j → f j = f i) (is js : List Instruction)
    (h : Shuffled is js) : (is.map f).Perm (js.map f) := by
  rcases h with ⟨ks, hperm, hrows⟩
  have hsame : ks.map f = js.map f := by
    clear hperm
    induction hrows with
    | nil => rfl
    | cons hij _ ih => rw [List.map_cons, List.map_cons, hf _ _ hij, ih]
  rw [← hsame]
  exact hperm.map f

/-- Shuffled instructions declare the same, in another order. -/
theorem perm_declarations (registry : Registry) (is js : List Instruction)
    (h : Shuffled is js) :
    (declarations registry (rowsOf is)).Perm (declarations registry (rowsOf js)) :=
  perm_map_rowsOf (fun x => declaration registry x.1 x.2)
    (fun i j r hij => Reordered.declaration_eq registry i j r hij) is js h

theorem perm_entriesAt (registry : Registry) (b : Int) (xs ys : List (Instruction × Row))
    (h : (declarations registry xs).Perm (declarations registry ys)) :
    (entriesAt registry b xs).Perm (entriesAt registry b ys) := by
  rw [entriesAt_eq, entriesAt_eq]
  exact h.filterMap _

theorem declaredBytes_congr (registry : Registry) (xs ys : List (Instruction × Row))
    (h : (declarations registry xs).Perm (declarations registry ys)) :
    declaredBytes registry xs = declaredBytes registry ys := by
  ext k
  have hlen := (perm_entriesAt registry k.val xs ys h).length_eq
  have hsome : ∀ rows : List (Instruction × Row),
      (firstDeclared? registry k.val rows).isSome = true
        ↔ (entriesAt registry k.val rows).length ≠ 0 := by
    intro rows
    unfold firstDeclared?
    cases entriesAt registry k.val rows <;> simp
  rw [mem_declaredBytes, mem_declaredBytes, hsome, hsome, hlen]

theorem length_rowFailures_congr (registry : Registry) (xs ys : List (Instruction × Row))
    (h : (declarations registry xs).Perm (declarations registry ys)) :
    (rowFailures registry [] xs).length = (rowFailures registry [] ys).length := by
  have hx := length_rowFailures registry xs
  have hy := length_rowFailures registry ys
  have hlen : xs.length = ys.length := by
    have hmap := h.length_eq
    simp only [declarations, List.length_map] at hmap
    exact hmap
  rw [declaredBytes_congr registry xs ys h] at hx
  omega

/-- Without faults, another order declares the same with each opcode. -/
theorem firstDeclared?_congr (registry : Registry) (b : Int) (xs ys : List (Instruction × Row))
    (h : (declarations registry xs).Perm (declarations registry ys))
    (hx : rowFailures registry [] xs = []) :
    firstDeclared? registry b xs = firstDeclared? registry b ys := by
  have hperm := perm_entriesAt registry b xs ys h
  have hle := length_entriesAt_le registry b xs hx
  unfold firstDeclared?
  rcases hat : entriesAt registry b xs with _ | ⟨e, _ | ⟨e', rest⟩⟩
  · rw [hat] at hperm
    rw [List.nil_perm.mp hperm]
  · rw [hat] at hperm
    rw [List.singleton_perm.mp hperm]
  · rw [hat] at hle
    simp only [List.length_cons] at hle
    omega

theorem undefinedNames_congr (xs ys : List String) (h : ∀ name, name ∈ xs ↔ name ∈ ys)
    (es : List Entry) :
    ∀ found, Table.undefinedNames xs found es = Table.undefinedNames ys found es := by
  have hcontains : ∀ name, xs.contains name = ys.contains name := by
    intro name
    rw [Bool.eq_iff_iff, List.contains_iff_mem, List.contains_iff_mem, h name]
  induction es with
  | nil => intro found; rfl
  | cons e rest ih =>
      intro found
      simp only [Table.undefinedNames, hcontains, ih]

/-- Only the set of the defined names counts for the placeholders. -/
theorem placeholders_congr (t : Table) (xs ys : List String) (h : xs.Perm ys) :
    t.placeholders xs = t.placeholders ys := by
  unfold Table.placeholders
  rw [undefinedNames_congr _ _ (fun name => (h.map Text.lower).mem_iff)]

/-- Two runs from one builder that have seen the same declarations in different orders have
    equally many faults, and the same entries if they have none. -/
theorem entries_of_holds_perm (start b b' : Builder) (xs ys : List (Instruction × Row))
    (hb : Holds start xs b) (hb' : Holds start ys b')
    (h : (declarations start.registry xs).Perm (declarations start.registry ys)) :
    b.failures.length = b'.failures.length ∧ (b.failures = [] → b.entries = b'.entries) := by
  constructor
  · rw [hb.failures, hb'.failures, List.length_append, List.length_append,
      length_rowFailures_congr start.registry xs ys h]
  · intro hnone
    rw [hb.failures, List.append_eq_nil_iff] at hnone
    refine Builder.entries_congr b b' fun k => ?_
    rw [hb.slots k, hb'.slots k, firstDeclared?_congr start.registry k.val xs ys h hnone.2]

/-- The body of an instruction in the first output. -/
def bodyOf (i : Instruction) : String :=
  Rendering.body i.macroName i.implementation

theorem bodies_eq (is : List Instruction) (placeholders : List String) :
    Rendering.bodies is placeholders = String.join (is.map bodyOf)
      ++ String.join (placeholders.map fun name => Rendering.body name "") := by
  unfold Rendering.bodies Rendering.namedBodies
  rw [List.map_append, String.join_append, List.map_map, List.map_map]
  rfl

/-- A whole run over the defaults of a reference does not depend on the order of the
    instructions and of their rows, except for which rows are reported and for the order of
    the bodies. As many faults are reported in any order. If there are none then the tables,
    the placeholders and the dispatches are the same, and the bodies of the instructions
    stand in the order of the instructions, before the same bodies of the placeholders. -/
theorem build_shuffled (registry : Registry) (reference : List ReferenceRow)
    (is js : List Instruction) (hlen : reference.length = opcodeSpace)
    (hshuffled : Shuffled is js) (hread : ∀ x ∈ rowsOf is, x.2.HasReadableCycles) :
    ∃ start b b' log log', Builder.fresh registry (some reference) = .ok start ∧
      Generator.addAll start is = (b, log, .ok ()) ∧
      Generator.addAll start js = (b', log', .ok ()) ∧
      b.failures.length = b'.failures.length ∧
      ((∃ t, b.build = .ok t) ↔ ∃ t, b'.build = .ok t) ∧
      ∀ t t', b.build = .ok t → b'.build = .ok t' →
        t.entries = t'.entries ∧
        t.placeholders (is.map (·.identifier)) = t'.placeholders (js.map (·.identifier)) ∧
        Rendering.dispatch registry t = Rendering.dispatch registry t' ∧
        (is.map bodyOf).Perm (js.map bodyOf) ∧
        ∃ rest,
          Rendering.bodies is (t.placeholders (is.map (·.identifier)))
            = String.join (is.map bodyOf) ++ rest ∧
          Rendering.bodies js (t'.placeholders (js.map (·.identifier)))
            = String.join (js.map bodyOf) ++ rest := by
  have hlens : ∀ rows ∈ some reference, rows.length = opcodeSpace := by
    intro rows hrows
    rw [← Option.some.inj hrows]
    exact hlen
  have hread' : ∀ y ∈ rowsOf js, y.2.HasReadableCycles := by
    intro y hy
    have hrows := perm_map_rowsOf Prod.snd (fun _ _ _ _ => rfl) is js hshuffled
    rcases List.mem_map.mp (hrows.mem_iff.mpr (List.mem_map_of_mem hy)) with ⟨x, hx, hxy⟩
    rw [← hxy]
    exact hread x hx
  rcases holds_fresh registry (some reference) is hlens hread with
    ⟨start, b, log, hfresh, hrun, hreg, _, _, hb⟩
  rcases holds_fresh registry (some reference) js hlens hread' with
    ⟨start', b', log', hfresh', hrun', _, _, _, hb'⟩
  have hstart : start = start' := Except.ok.inj (hfresh.symm.trans hfresh')
  rw [← hstart] at hrun' hb'
  have hperm := perm_declarations start.registry is js hshuffled
  rcases entries_of_holds_perm start b b' _ _ hb hb' hperm with ⟨hcount, hentries⟩
  have hnil : b.failures = [] ↔ b'.failures = [] := by
    rw [← List.length_eq_zero_iff, ← List.length_eq_zero_iff, hcount]
  refine ⟨start, b, b', log, log', hfresh, hrun, hrun', hcount, ?_, ?_⟩
  · simp only [Builder.build_eq_ok_iff, hnil, exists_and_left, exists_eq']
  · intro t t' ht ht'
    rcases (Builder.build_eq_ok_iff b t).mp ht with ⟨hnone, hb⟩
    rcases (Builder.build_eq_ok_iff b' t').mp ht' with ⟨_, hb'⟩
    have htable : t' = t := by rw [← hb', ← hb, hentries hnone]
    have hnames : t.placeholders (is.map (·.identifier))
        = t.placeholders (js.map (·.identifier)) :=
      placeholders_congr t _ _
        (perm_map_of_shuffled _ (fun _ _ hij => hij.identifier) is js hshuffled)
    have hbodies : (is.map bodyOf).Perm (js.map bodyOf) := by
      refine perm_map_of_shuffled bodyOf (fun i j hij => ?_) is js hshuffled
      unfold bodyOf Instruction.macroName
      rw [hij.identifier, hij.implementation]
    rw [htable]
    exact ⟨rfl, hnames, rfl, hbodies, _, bodies_eq is _, by rw [hnames]; exact bodies_eq js _⟩

/-- Two instructions, of which one has two rows. -/
def loads : List Instruction := [
  ⟨"LDA", "a", some [⟨["Immediate", "", "$A9", "2", "2"]⟩,
    ⟨["Absolute,X", "", "$BD", "3", "4+"]⟩], ""⟩,
  ⟨"LDX", "x", some [⟨["Immediate", "", "$A2", "2", "2"]⟩], ""⟩]

/-- The same with everything in the opposite order. -/
def loadsReversed : List Instruction := [
  ⟨"LDX", "x", some [⟨["Immediate", "", "$A2", "2", "2"]⟩], ""⟩,
  ⟨"LDA", "a", some [⟨["Absolute,X", "", "$BD", "3", "4+"]⟩,
    ⟨["Immediate", "", "$A9", "2", "2"]⟩], ""⟩]

theorem shuffled_loads : Shuffled loads loadsReversed := by
  refine ⟨loads.reverse, (List.reverse_perm loads).symm, ?_⟩
  refine .cons ⟨rfl, rfl, rfl, .some (List.Perm.refl _)⟩ (.cons ⟨rfl, rfl, rfl, .some ?_⟩ .nil)
  exact List.Perm.swap _ _ []

set_option maxRecDepth 4000 in
/-- Both orders build one table over the defaults. -/
theorem build_shuffled_loads :
    let reference := List.replicate opcodeSpace ⟨"imp", "NOP", .count 2⟩
    reference.length = opcodeSpace ∧ Shuffled loads loadsReversed ∧
      (∀ x ∈ rowsOf loads, x.2.HasReadableCycles) ∧
      ∃ start b b' log log' t t',
        Builder.fresh Registry.default (some reference) = .ok start ∧
        Generator.addAll start loads = (b, log, .ok ()) ∧
        Generator.addAll start loadsReversed = (b', log', .ok ()) ∧
        b.build = .ok t ∧ b'.build = .ok t' ∧ t.entries = t'.entries := by
  intro reference
  have hlen : reference.length = opcodeSpace := List.length_replicate
  have hread : ∀ x ∈ rowsOf loads, x.2.HasReadableCycles := by decide
  rcases build_shuffled Registry.default reference loads loadsReversed hlen shuffled_loads hread
    with ⟨start, b, b', log, log', hfresh, hrun, hrun', _, hbuild, hsame⟩
  rcases holds_fresh Registry.default (some reference) loads
    (fun rows hrows => Option.some.inj hrows ▸ hlen) hread with
    ⟨start', b'', log'', hfresh', hrun'', hreg, _, hfail, h⟩
  rw [← Except.ok.inj (hfresh.symm.trans hfresh'), hrun, Prod.mk.injEq] at hrun''
  have hnone : b.failures = [] := by
    rw [hrun''.1, h.failures, hfail, hreg]
    rfl
  have ht := (Builder.build_eq_ok_iff b (.ofList b.entries)).mpr ⟨hnone, rfl⟩
  rcases hbuild.mp ⟨_, ht⟩ with ⟨t', ht'⟩
  exact ⟨hlen, shuffled_loads, hread, start, b, b', log, log', _, t', hfresh, hrun, hrun', ht,
    ht', (hsame _ t' ht ht').1⟩

end OpcodeForge.Opcode
