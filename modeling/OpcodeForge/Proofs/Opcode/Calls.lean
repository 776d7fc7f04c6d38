import OpcodeForge.Proofs.Opcode.Run

/-!
# Calls on a Builder

A run seeds its builder once and then adds instructions. Nothing in a builder asks for that
order: it can be seeded late or more than once, and single entries can be put in by hand.
Here the three operations are calls, and a builder goes through any list of them.

What one call can do to a slot is said once. `addRows_induction` reduces adding an
instruction to putting in single entries and reporting, and `insert_eq_ok_iff` says that an
entry is only ever put into a slot that is empty or holds a default. Seeding does not look
at the slot at all. So a declared entry is safe from everything but seeding
(`call_keeps`), and seeding does replace it (`call_replaces`). Over a list of calls this
gives the exact condition under which a declared entry stays (`keeps_declared_iff`).

## Main definitions

* `Call`: A call on a builder.
* `Builder.call`, `Builder.calls`: The builder after one call, and after a list of them.
* `Call.Reseeds`: A call that puts a default into a slot.

## Theorems

* `insert_eq_ok_iff`, `addRow_eq_ok_iff`, `seed_eq_ok_iff`: What each operation can do.
* `addRows_induction`: What holds after each entry and each report holds after all rows.
* `registry_calls`: Calls keep the registry.
* `call_keeps`, `call_replaces`: What one call does to a declared entry.
* `calls_keep`: What calls without such a seeding do to it.
* `keeps_declared_iff`: When a declared entry stays.
-/

namespace OpcodeForge.Opcode

open Addressing (Registry)
open Specification (Instruction)

/-- A call on a builder. -/
inductive Call
  | seed (rows : List ReferenceRow)
  | add (i : Instruction)
  | insert (e : Entry)

/-- A call that puts a default into a slot. It does so whatever the slot holds. -/
def Call.Reseeds (registry : Registry) (k : Fin opcodeSpace) : Call → Prop
  | .seed rows => rows.length = opcodeSpace ∧
      ∃ r, rows[k.val]? = some r ∧ Builder.seeds registry r = true
  | .add _ => False
  | .insert _ => False

theorem isDefault_ofReference (k : Nat) (r : ReferenceRow) :
    (Entry.ofReference k r).isDefault = true :=
  beq_self_eq_true defaultSource

namespace Builder

/-- The builder after a call. One that is refused leaves it as it was, and one that stops
    at a defect leaves what was put in before. -/
def call (b : Builder) : Call → Builder
  | .seed rows => match b.seed rows with
    | .ok (b', _) => b'
    | .error _ => b
  | .add i => (b.add i).1
  | .insert e => match b.insert e with
    | .ok b' => b'
    | .error _ => b

/-- The builder after calls, one after the other. -/
def calls (b : Builder) (cs : List Call) : Builder :=
  cs.foldl call b

theorem calls_concat (b : Builder) (cs : List Call) (c : Call) :
    b.calls (cs ++ [c]) = (b.calls cs).call c := by
  simp only [calls, List.foldl_append, List.foldl_cons, List.foldl_nil]

/-- An entry goes into the slot of its opcode if that is empty or holds a default. -/
theorem insert_eq_ok_iff (b b' : Builder) (e : Entry) :
    b.insert e = .ok b' ↔ ∃ k, slotOf? e.opcode = some k ∧
      (∀ old, b.get? k = some old → old.isDefault = true) ∧ b.set k e = b' := by
  unfold insert
  cases hslot : slotOf? e.opcode with
  | none => simp only [reduceCtorEq, false_and, exists_false]
  | some k =>
      simp only [Option.some.injEq, exists_eq_left']
      cases hold : b.get? k with
      | none => simp only [Except.ok.injEq, reduceCtorEq, false_implies, implies_true, true_and]
      | some old =>
          cases hdef : old.isDefault with
          | false => simp [hdef]
          | true => simp [hdef]

theorem addRow_eq_ok_iff (b b' : Builder) (i : Instruction) (r : Row) :
    b.addRow i r = .ok b' ↔ ∃ e, entryOf b.registry i r = .ok e ∧ b.insert e = .ok b' := by
  unfold addRow
  cases entryOf b.registry i r with
  | error stop => simp only [bind, Except.bind, reduceCtorEq, false_and, exists_false]
  | ok e => simp only [bind, Except.bind, Except.ok.injEq, exists_eq_left']

theorem seed_eq_ok_iff (b : Builder) (rows : List ReferenceRow) (seeded : Builder × Nat) :
    b.seed rows = .ok seeded ↔ rows.length = opcodeSpace ∧
      (b.seedFrom 0 rows, rows.countP (seeds b.registry)) = seeded := by
  unfold seed checkReference
  by_cases hlen : rows.length = opcodeSpace
  · simp only [hlen, if_true, Except.ok.injEq, true_and]
  · simp only [hlen, if_false, reduceCtorEq, false_and]

theorem call_seed (b : Builder) (rows : List ReferenceRow) :
    b.call (.seed rows) = if rows.length = opcodeSpace then b.seedFrom 0 rows else b := by
  unfold call
  cases hseed : b.seed rows with
  | ok seeded =>
      rcases (seed_eq_ok_iff b rows seeded).mp hseed with ⟨hlen, rfl⟩
      simp only [hseed, if_pos hlen]
  | error f =>
      have hlen : rows.length ≠ opcodeSpace := by
        intro hlen
        rw [(seed_eq_ok_iff b rows _).mpr ⟨hlen, rfl⟩] at hseed
        cases hseed
      simp only [hseed, if_neg hlen]

/-- What holds after each entry that is put in and after each report holds after all rows
    of an instruction, also when a defect stops them. -/
theorem addRows_induction (P : Builder → Prop) (i : Instruction)
    (hinsert : ∀ b r e b', P b → entryOf b.registry i r = .ok e → b.insert e = .ok b' → P b')
    (hreport : ∀ b f, P b → P (b.report f)) (rows : List Row) :
    ∀ (b : Builder) (added : Nat), P b → P (addRows i b added rows).1 := by
  induction rows with
  | nil => intro b added h; exact h
  | cons r rest ih =>
      intro b added h
      unfold addRows
      cases hrow : b.addRow i r with
      | error stop =>
          cases stop with
          | failure f => exact ih (b.report f) added (hreport b f h)
          | defect d => exact h
      | ok b' =>
          rcases (addRow_eq_ok_iff b b' i r).mp hrow with ⟨e, hentry, hput⟩
          exact ih b' (added + 1) (hinsert b r e b' h hentry hput)

theorem registry_call (b : Builder) (c : Call) : (b.call c).registry = b.registry := by
  have hput : ∀ (b' : Builder) (e : Entry) (b'' : Builder), b'.registry = b.registry →
      b'.insert e = .ok b'' → b''.registry = b.registry := by
    intro b' e b'' hreg h
    rcases (insert_eq_ok_iff b' b'' e).mp h with ⟨k, _, _, rfl⟩
    exact hreg
  cases c with
  | seed rows =>
      rw [call_seed]
      split
      · exact registry_seedFrom rows b 0
      · rfl
  | add i =>
      exact addRows_induction (fun b' => b'.registry = b.registry) i
        (fun b' r e b'' h _ hins => hput b' e b'' h hins) (fun _ _ h => h) _ b 0 rfl
  | insert e =>
      cases hins : b.insert e with
      | error stop => simp only [call, hins]
      | ok b' =>
          simp only [call, hins]
          exact hput b e b' rfl hins

theorem registry_calls (b : Builder) (cs : List Call) :
    (b.calls cs).registry = b.registry := by
  induction cs generalizing b with
  | nil => rfl
  | cons c rest ih => exact (ih (b.call c)).trans (registry_call b c)

/-- An entry that is put in goes past a slot with a declaration. -/
theorem get?_of_insert (b b' : Builder) (e new : Entry) (k : Fin opcodeSpace)
    (he : b.get? k = some e) (hdeclared : e.isDefault = false) (h : b.insert new = .ok b') :
    b'.get? k = some e := by
  rcases (insert_eq_ok_iff b b' new).mp h with ⟨j, _, hold, rfl⟩
  have hjk : j ≠ k := by
    intro hjk
    rw [hjk] at hold
    have hdefault := hold e he
    rw [hdeclared] at hdefault
    exact absurd hdefault (by decide)
  rw [get?_set, if_neg hjk]
  exact he

/-- Seeding decides about a slot by the row of its byte alone. -/
theorem get?_call_seed (b : Builder) (rows : List ReferenceRow) (k : Fin opcodeSpace)
    (hlen : rows.length = opcodeSpace) :
    (b.call (.seed rows)).get? k
      = (rows[k.val]?.bind (default? b.registry k)).or (b.get? k) := by
  rw [call_seed, if_pos hlen, get?_seedFrom rows b 0 k (by omega), if_pos (Nat.zero_le _),
    Nat.sub_zero]

theorem call_keeps (b : Builder) (c : Call) (k : Fin opcodeSpace) (e : Entry)
    (he : b.get? k = some e) (hdeclared : e.isDefault = false)
    (hc : ¬c.Reseeds b.registry k) : (b.call c).get? k = some e := by
  cases c with
  | seed rows =>
      by_cases hlen : rows.length = opcodeSpace
      · have hnone : rows[k.val]?.bind (default? b.registry k) = none := by
          rw [Option.bind_eq_none_iff]
          intro r hr
          unfold default?
          rw [if_neg]
          intro hseeds
          exact hc ⟨hlen, r, hr, hseeds⟩
        rw [get?_call_seed b rows k hlen, hnone, Option.none_or]
        exact he
      · rw [call_seed, if_neg hlen]
        exact he
  | add i =>
      exact addRows_induction (fun b' => b'.get? k = some e) i
        (fun b' r new b'' h _ hins => get?_of_insert b' b'' e new k h hdeclared hins)
        (fun _ _ h => h) _ b 0 he
  | insert new =>
      cases hins : b.insert new with
      | error stop =>
          simp only [call, hins]
          exact he
      | ok b' =>
          simp only [call, hins]
          exact get?_of_insert b b' e new k he hdeclared hins

theorem call_replaces (b : Builder) (c : Call) (k : Fin opcodeSpace)
    (hc : c.Reseeds b.registry k) :
    ∃ e, (b.call c).get? k = some e ∧ e.isDefault = true := by
  cases c with
  | seed rows =>
      rcases hc with ⟨hlen, r, hr, hseeds⟩
      refine ⟨.ofReference k r, ?_, isDefault_ofReference k r⟩
      rw [get?_call_seed b rows k hlen, hr, Option.bind_some]
      unfold default?
      rw [if_pos hseeds, Option.some_or]
  | add i => exact hc.elim
  | insert e => exact hc.elim

theorem calls_keep (cs : List Call) (k : Fin opcodeSpace) (e : Entry)
    (hdeclared : e.isDefault = false) :
    ∀ b : Builder, b.get? k = some e → (∀ c ∈ cs, ¬c.Reseeds b.registry k) →
      (b.calls cs).get? k = some e := by
  induction cs with
  | nil => intro b he _; exact he
  | cons c rest ih =>
      intro b he hnone
      have hc := call_keeps b c k e he hdeclared (hnone c List.mem_cons_self)
      refine ih (b.call c) hc fun c' hc' => ?_
      rw [registry_call]
      exact hnone c' (List.mem_cons_of_mem c hc')

/-- A declared entry stays in its slot throughout a list of calls exactly if none of them
    is a seeding that puts a default into that slot. -/
theorem keeps_declared_iff (b : Builder) (cs : List Call) (k : Fin opcodeSpace) (e : Entry)
    (he : b.get? k = some e) (hdeclared : e.isDefault = false) :
    (∀ done, done <+: cs → (b.calls done).get? k = some e) ↔
      ∀ c ∈ cs, ¬c.Reseeds b.registry k := by
  constructor
  · intro hkeeps c hc hreseeds
    rcases List.append_of_mem hc with ⟨before, after, hcs⟩
    have hdone : before ++ [c] <+: cs := ⟨after, by rw [hcs, ← List.append_cons]⟩
    have hlater := hkeeps (before ++ [c]) hdone
    rw [calls_concat] at hlater
    rw [← registry_calls b before] at hreseeds
    rcases call_replaces (b.calls before) c k hreseeds with ⟨new, hnew, hdefault⟩
    rw [hlater, Option.some.injEq] at hnew
    rw [← hnew, hdeclared] at hdefault
    exact absurd hdefault (by decide)
  · intro hnone done hdone
    exact calls_keep done k e hdeclared b he fun c hc => hnone c (hdone.subset hc)

/-- What a specification may say about the opcode two. -/
def lockUp : Entry := ⟨2, "imp", "KIL", .count 2, false, "", "KIL (Implied)"⟩

/-- Another declaration does not replace it, but a late seeding does. -/
theorem keeps_declared_iff_lockUp :
    let b := (empty Registry.default).calls [.insert lockUp]
    let k : Fin opcodeSpace := ⟨2, by decide⟩
    let again : List Call := [.insert { lockUp with source := "JAM (Implied)" }]
    let late : List Call := [.seed (List.replicate opcodeSpace ⟨"imp", "NOP", .count 2⟩)]
    b.get? k = some lockUp ∧ lockUp.isDefault = false ∧
      (∀ done, done <+: again → (b.calls done).get? k = some lockUp) ∧
      ¬∀ done, done <+: late → (b.calls done).get? k = some lockUp := by
  intro b k again late
  have he : b.get? k = some lockUp := rfl
  have hdeclared : lockUp.isDefault = false := by decide
  refine ⟨he, hdeclared, ?_, ?_⟩
  · rw [keeps_declared_iff b again k lockUp he hdeclared]
    intro c hc
    rw [List.mem_singleton.mp hc]
    exact not_false
  · rw [keeps_declared_iff b late k lockUp he hdeclared]
    intro hnone
    refine hnone _ List.mem_cons_self ⟨List.length_replicate, ⟨"imp", "NOP", .count 2⟩, ?_, ?_⟩
    · exact List.getElem?_replicate_of_lt (by decide)
    · decide +kernel

end Builder

end OpcodeForge.Opcode
