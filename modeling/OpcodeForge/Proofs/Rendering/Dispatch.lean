import OpcodeForge.Proofs.Number.Hex
import OpcodeForge.Rendering.Dispatch

/-!
# Rendering the Dispatch

The dispatch has no faults of its own to report. An entry that cannot be rendered stops
the run without a report, so everything that rendering relies on must be checked
before. For an opcode that is a byte and a mode that is enabled there is one thing left to
go wrong: the cycles may have no text. `dispatch_eq` says what a table of such entries
gives, and `CanRender` collects all that a single entry needs.

Arms are sorted by their keys as texts. Where the entries come with strictly ascending
bytes that changes nothing (`byKey_eq`), and the arms are those of the entries in order.

## Main definitions

* `Rendering.armText`: The text of an arm by its parts.
* `Rendering.armOf`: The arm of an entry that can be rendered.
* `Rendering.CanRender`: What rendering an entry relies on.

## Theorems

* `intercalate_armLines`: The lines of an arm make its text.
* `arm_eq`, `mapM_arm_eq`: What the entries with enabled modes give.
* `checkKeys_eq`: Bytes have keys of two digits.
* `dispatch_eq`: What a table of bytes with enabled modes gives.
* `dispatch_ok`: A table of entries that can be rendered is rendered.
* `arm_eq_ok_iff`, `mapM_arm_eq_ok_iff`, `checkKeys_eq_ok_iff`: When each step gives something.
* `dispatch_eq_ok_iff`: When any table is rendered, and what it then gives.
* `byKey_eq`: Ascending bytes are sorted already.
-/

namespace OpcodeForge.Rendering

open Opcode (Entry Table)
open Addressing (Registry)

/-- The text of an arm: the key, the cycles, the mode, the body, and a line of additional
    code unless that is empty. -/
def armText (key cycles mode name additional : String) : String :=
  "0x" ++ key ++ " => \x7b\n"
    ++ "        set_instruction!(self, " ++ cycles ++ ", \x7b\n"
    ++ "          " ++ mode ++ "!(self, memory);\n"
    ++ "          " ++ name ++ "!(self, memory);\n"
    ++ (if additional.isEmpty then "" else "          " ++ additional ++ "\n")
    ++ "        \x7d);\n      \x7d,"

/-- The arm of an entry that can be rendered. -/
def armOf (e : Entry) : String :=
  armText e.key e.cycles.text e.mode (Text.lower e.instruction) e.additionalCodes

/-- What rendering an entry relies on: its opcode is a byte, its cycles have a text,
    and its mode is enabled. -/
structure CanRender (registry : Registry) (e : Entry) : Prop where
  opcode : ∃ k : Fin opcodeSpace, e.opcode = k.val
  cycles : e.cycles.isWritable = true
  mode : registry.isEnabledCode e.mode = true

theorem intercalate_armLines (mode : String) (e : Entry) :
    "\n".intercalate (armLines mode e)
      = armText e.key e.cycles.text mode (Text.lower e.instruction) e.additionalCodes := by
  unfold armLines armText
  by_cases hadditional : e.additionalCodes.isEmpty = true
  · simp only [if_pos hadditional, List.cons_append, List.nil_append,
      String.intercalate_cons_cons, String.intercalate_singleton]
    simp only [String.append_assoc, String.append_empty]
    rfl
  · simp only [if_neg hadditional, List.cons_append, List.nil_append,
      String.intercalate_cons_cons, String.intercalate_singleton]
    simp only [String.append_assoc]
    rfl

/-- The mode that is found by a code has that code. -/
theorem code_of_byCode? (registry : Registry) (code : String) (c : Addressing.Capability)
    (h : registry.byCode? code = some c) : c.code = code := by
  rcases Option.filter_eq_some_iff.mp h with ⟨hfind, _⟩
  have hbeq := List.find?_some hfind
  exact eq_of_beq hbeq

theorem arm_eq (registry : Registry) (e : Entry)
    (hmode : registry.isEnabledCode e.mode = true) :
    arm registry e
      = if e.cycles.isWritable then .ok (armOf e) else .error .numberTooLong := by
  rcases Option.isSome_iff_exists.mp hmode with ⟨c, hc⟩
  unfold arm
  cases hcycles : e.cycles.isWritable with
  | false => simp
  | true =>
      simp only [hc, Bool.not_true, Bool.false_eq_true, if_false, if_true, Except.ok.injEq]
      rw [code_of_byCode? registry e.mode c hc, intercalate_armLines]
      rfl

theorem mapM_arm_eq (registry : Registry) (es : List Entry)
    (hmodes : ∀ e ∈ es, registry.isEnabledCode e.mode = true) :
    es.mapM (arm registry) = if es.all (·.cycles.isWritable) then .ok (es.map armOf)
      else .error .numberTooLong := by
  induction es with
  | nil => rfl
  | cons e rest ih =>
      have hrest := ih fun x hx => hmodes x (List.mem_cons_of_mem e hx)
      rw [List.mapM_cons, arm_eq registry e (hmodes e List.mem_cons_self), hrest, List.all_cons]
      cases e.cycles.isWritable with
      | false => rfl
      | true => cases rest.all (·.cycles.isWritable) <;> rfl

theorem checkKeys_eq (es : List Entry)
    (hbytes : ∀ e ∈ es, ∃ k : Fin opcodeSpace, e.opcode = k.val) : checkKeys es = .ok () := by
  induction es with
  | nil => rfl
  | cons e rest ih =>
      rcases hbytes e List.mem_cons_self with ⟨k, hk⟩
      have hkey : e.key.length = keyWidth := by
        unfold Entry.key
        rw [hk, Number.hexKey_byte]
        exact Number.length_byteKey k
      unfold checkKeys
      rw [if_pos hkey, ih fun x hx => hbytes x (List.mem_cons_of_mem e hx)]

/-- A table of bytes with enabled modes is rendered unless the cycles of an entry have no
    text. -/
theorem dispatch_eq (registry : Registry) (t : Table)
    (hbytes : ∀ e ∈ t.entries, ∃ k : Fin opcodeSpace, e.opcode = k.val)
    (hmodes : ∀ e ∈ t.entries, registry.isEnabledCode e.mode = true) :
    dispatch registry t = if t.entries.all (·.cycles.isWritable)
      then .ok (dispatchHead ++ "\n".intercalate ((byKey t.entries).map armOf) ++ dispatchTail)
      else .error .numberTooLong := by
  have hperm : (byKey t.entries).Perm t.entries := List.mergeSort_perm _ _
  have hall : (byKey t.entries).all (·.cycles.isWritable)
      = t.entries.all (·.cycles.isWritable) := hperm.all_eq
  unfold dispatch
  rw [checkKeys_eq t.entries hbytes,
    mapM_arm_eq registry _ fun e he => hmodes e (hperm.mem_iff.mp he), hall]
  cases t.entries.all (·.cycles.isWritable) <;> rfl

/-- A table is rendered if all of its entries can be. -/
theorem dispatch_ok (registry : Registry) (t : Table)
    (h : ∀ e ∈ t.entries, CanRender registry e) : ∃ s, dispatch registry t = .ok s := by
  rw [dispatch_eq registry t (fun e he => (h e he).opcode) fun e he => (h e he).mode,
    if_pos (List.all_eq_true.mpr fun e he => (h e he).cycles)]
  exact ⟨_, rfl⟩

theorem arm_eq_ok_iff (registry : Registry) (e : Entry) (s : String) :
    arm registry e = .ok s ↔
      registry.isEnabledCode e.mode = true ∧ e.cycles.isWritable = true ∧ armOf e = s := by
  by_cases hmode : registry.isEnabledCode e.mode = true
  · rw [arm_eq registry e hmode]
    cases e.cycles.isWritable with
    | false => simp only [Bool.false_eq_true, if_false, reduceCtorEq, false_and, and_false]
    | true => simp only [if_true, Except.ok.injEq, hmode, true_and]
  · have hnone : registry.byCode? e.mode = none := Option.not_isSome_iff_eq_none.mp hmode
    unfold arm
    rw [hnone]
    cases e.cycles.isWritable <;> simp [hmode]

theorem mapM_arm_eq_ok_iff (registry : Registry) (es : List Entry) :
    ∀ arms, es.mapM (arm registry) = .ok arms ↔
      (∀ e ∈ es, registry.isEnabledCode e.mode = true ∧ e.cycles.isWritable = true) ∧
        es.map armOf = arms := by
  induction es with
  | nil => exact fun arms => by simp [pure, Except.pure]
  | cons e rest ih =>
      intro arms
      have hcons : (e :: rest).mapM (arm registry) = .ok arms ↔
          ∃ s more, arm registry e = .ok s ∧ rest.mapM (arm registry) = .ok more ∧
            s :: more = arms := by
        rw [List.mapM_cons]
        cases arm registry e with
        | error x => simp [bind, Except.bind]
        | ok s => cases rest.mapM (arm registry) <;> simp [bind, Except.bind, pure, Except.pure]
      rw [hcons, List.forall_mem_cons, List.map_cons]
      constructor
      · rintro ⟨s, more, hs, hmore, rfl⟩
        rcases (arm_eq_ok_iff registry e s).mp hs with ⟨hmode, hcycles, rfl⟩
        rcases (ih more).mp hmore with ⟨hall, rfl⟩
        exact ⟨⟨⟨hmode, hcycles⟩, hall⟩, rfl⟩
      · rintro ⟨⟨⟨hmode, hcycles⟩, hall⟩, rfl⟩
        exact ⟨armOf e, rest.map armOf, (arm_eq_ok_iff registry e _).mpr ⟨hmode, hcycles, rfl⟩,
          (ih _).mpr ⟨hall, rfl⟩, rfl⟩

theorem checkKeys_eq_ok_iff (es : List Entry) :
    checkKeys es = .ok () ↔ ∀ e ∈ es, e.key.length = keyWidth := by
  induction es with
  | nil => simp [checkKeys]
  | cons e rest ih =>
      unfold checkKeys
      rw [List.forall_mem_cons]
      by_cases hkey : e.key.length = keyWidth
      · simp only [hkey, if_true, ih, true_and]
      · simp only [hkey, if_false, reduceCtorEq, false_and]

/-- When a table is rendered, and what it then gives. Nothing is known of the entries
    before: they need not be bytes, and their modes need not be enabled. -/
theorem dispatch_eq_ok_iff (registry : Registry) (t : Table) (s : String) :
    dispatch registry t = .ok s ↔
      (∀ e ∈ t.entries, e.key.length = keyWidth ∧ registry.isEnabledCode e.mode = true ∧
        e.cycles.isWritable = true) ∧
      dispatchHead ++ "\n".intercalate ((byKey t.entries).map armOf) ++ dispatchTail = s := by
  have hperm : (byKey t.entries).Perm t.entries := List.mergeSort_perm _ _
  have hsteps : dispatch registry t = .ok s ↔ checkKeys t.entries = .ok () ∧
      ∃ arms, (byKey t.entries).mapM (arm registry) = .ok arms ∧
        dispatchHead ++ "\n".intercalate arms ++ dispatchTail = s := by
    unfold dispatch
    cases checkKeys t.entries with
    | error x => simp [bind, Except.bind]
    | ok u =>
        cases (byKey t.entries).mapM (arm registry) <;> simp [bind, Except.bind, pure, Except.pure]
  rw [hsteps, checkKeys_eq_ok_iff]
  simp only [mapM_arm_eq_ok_iff, hperm.mem_iff]
  constructor
  · rintro ⟨hkeys, arms, ⟨hall, rfl⟩, htext⟩
    exact ⟨fun e he => ⟨hkeys e he, hall e he⟩, htext⟩
  · rintro ⟨hall, htext⟩
    exact ⟨fun e he => (hall e he).1, _, ⟨fun e he => (hall e he).2, rfl⟩, htext⟩

theorem byKey_eq (es : List Entry)
    (hbytes : ∀ e ∈ es, ∃ k : Fin opcodeSpace, e.opcode = k.val)
    (hascend : es.Pairwise fun e e' => e.opcode < e'.opcode) : byKey es = es := by
  refine List.mergeSort_of_pairwise (List.Pairwise.imp_of_mem ?_ hascend)
  intro e e' he he' hlt
  rcases hbytes e he with ⟨j, hj⟩
  rcases hbytes e' he' with ⟨k, hk⟩
  have hkeys : Number.byteKey j < Number.byteKey k :=
    Number.byteKey_lt j k (show j.val < k.val by omega)
  unfold Entry.key
  rw [hj, hk, Number.hexKey_byte, Number.hexKey_byte, decide_eq_true_eq]
  exact fun hgt => String.lt_irrefl _ (String.lt_trans hkeys hgt)

end OpcodeForge.Rendering
