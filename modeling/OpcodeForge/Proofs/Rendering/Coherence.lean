import OpcodeForge.Proofs.Addressing
import OpcodeForge.Proofs.Opcode.Calls
import OpcodeForge.Proofs.Opcode.Slots
import OpcodeForge.Proofs.Rendering.Dispatch

/-!
# Coherent Registries

A builder looks a mode up by its label and the dispatch looks it up by its code. The two
agree as long as the code of each label that resolves is that of an enabled mode, which is
what `Coherent` says of a registry. It is not so in all of them. Two capabilities can share
a code under different labels, and if the one that is given last is disabled then it hides
the other, whose label still resolves (`coherent_ofList_iff`).

Coherence is exactly what a table needs to be rendered after it was built. With it, what
the slots hold can be rendered after any number of seedings and instructions, up to defaults
whose cycles have no text: `Renders` is the invariant, and one call keeps it
(`renders_call`). Without it there is a run that builds a table which cannot be rendered:
one row with the label is enough (`dispatch_hidden`).

## Main definitions

* `Registry.Coherent`: The code of each label that resolves is that of an enabled mode.
* `Call.Checked`: A call that looks its modes up.
* `Builder.Renders`: What a builder holds after such calls.

## Theorems

* `coherent_ofList_iff`: When the registry of a list of capabilities is coherent.
* `coherent_of_nodup`: It is if no two of them share a code.
* `coherent_of_overrides`: That of the processor is, whatever the flags.
* `renders_empty`, `renders_call`, `renders_calls`: Such calls keep the invariant.
* `dispatch_eq_of_renders`, `dispatch_of_renders`: What a table that is built then gives.
* `dispatch_hidden`: A label whose code is hidden gives a table that cannot be rendered.
* `coherent_iff_rendered`: When every table that is built is rendered.
-/

namespace OpcodeForge

open Addressing (Capability Registry)
open Opcode
open Specification (Instruction)

namespace Addressing.Registry

/-- The code of each label that resolves is that of an enabled mode. -/
def Coherent (r : Registry) : Prop :=
  ∀ label c, r.enabledLabel? label = some c → r.isEnabledCode c.code = true

/-- A list of capabilities gives a coherent registry if the last capability with a label,
    when it is enabled, has a code with which the last capability is enabled too. -/
theorem coherent_ofList_iff (cs : List Capability) :
    (ofList cs).Coherent ↔ ∀ c, cs.reverse.find? (·.label == c.label) = some c →
      c.enabled = true →
      ∃ last, cs.reverse.find? (·.code == c.code) = some last ∧ last.enabled = true := by
  have hcode : ∀ code, (ofList cs).isEnabledCode code = true ↔
      ∃ last, cs.reverse.find? (·.code == code) = some last ∧ last.enabled = true := by
    intro code
    unfold isEnabledCode byCode?
    rw [Option.isSome_iff_exists]
    simp only [Option.filter_eq_some_iff]
    rfl
  unfold Coherent enabledLabel?
  simp only [hcode, byLabel?_ofList, Option.filter_eq_some_iff]
  constructor
  · intro h c hlabel henabled
    exact h c.label c ⟨hlabel, henabled⟩
  · rintro h label c ⟨hlabel, henabled⟩
    have hbeq := List.find?_some hlabel
    have hc : c.label = label := eq_of_beq hbeq
    rw [← hc] at hlabel
    exact h c hlabel henabled

theorem coherent_of_nodup (cs : List Capability) (h : (cs.map (·.code)).Nodup) :
    (ofList cs).Coherent := by
  intro label c hc
  unfold isEnabledCode
  rw [byCode?_of_enabledLabel? cs h label c hc]
  rfl

theorem coherent_of_overrides (flags : List (String × Bool)) (r : Registry)
    (h : default.withOverrides flags = .ok r) : r.Coherent := by
  intro label c hc
  unfold isEnabledCode
  rw [byCode?_of_overrides flags r h label c hc]
  rfl

end Addressing.Registry

namespace Opcode

/-- A call that looks its modes up. An entry that is put in by hand may have any. -/
def Call.Checked : Call → Prop
  | .seed _ => True
  | .add _ => True
  | .insert _ => False

namespace Builder

/-- What a builder holds after seedings and instructions. -/
structure Renders (r : Registry) (b : Builder) : Prop where
  registry : b.registry = r
  placed : b.Placed
  modes : ∀ k e, b.get? k = some e → r.isEnabledCode e.mode = true
  /-- Only a default can have cycles without a text. -/
  cycles : ∀ k e, b.get? k = some e → e.isDefault = false → e.cycles.isWritable = true

theorem renders_empty (r : Registry) : Renders r (empty r) := by
  have hnone : ∀ (k : Fin opcodeSpace) (e : Entry), (empty r).get? k ≠ some e := by
    intro k e he
    rw [get?_empty] at he
    exact absurd he (by simp only [reduceCtorEq, not_false_eq_true])
  exact ⟨rfl, fun k e he => absurd he (hnone k e), fun k e he => absurd he (hnone k e),
    fun k e he => absurd he (hnone k e)⟩

theorem renders_set (r : Registry) (b : Builder) (j : Fin opcodeSpace) (new : Entry)
    (hopcode : new.opcode = j.val) (hmode : r.isEnabledCode new.mode = true)
    (hcycles : new.isDefault = false → new.cycles.isWritable = true) (h : Renders r b) :
    Renders r (b.set j new) := by
  have hcases : ∀ k e, (b.set j new).get? k = some e →
      (j = k ∧ new = e) ∨ b.get? k = some e := by
    intro k e he
    rw [get?_set] at he
    by_cases hjk : j = k
    · rw [if_pos hjk, Option.some.injEq] at he
      exact Or.inl ⟨hjk, he⟩
    · rw [if_neg hjk] at he
      exact Or.inr he
  refine ⟨h.registry, fun k e he => ?_, fun k e he => ?_, fun k e he => ?_⟩
  · rcases hcases k e he with ⟨rfl, rfl⟩ | hold
    · exact hopcode
    · exact h.placed k e hold
  · rcases hcases k e he with ⟨rfl, rfl⟩ | hold
    · exact hmode
    · exact h.modes k e hold
  · rcases hcases k e he with ⟨rfl, rfl⟩ | hold
    · exact hcycles
    · exact h.cycles k e hold

/-- A row puts in an entry with the code of a label that resolves. -/
theorem renders_insert (r : Registry) (hr : r.Coherent) (i : Instruction) (b : Builder)
    (row : Row) (new : Entry) (b' : Builder) (h : Renders r b)
    (hentry : entryOf b.registry i row = .ok new) (hinsert : b.insert new = .ok b') :
    Renders r b' := by
  rw [h.registry, entryOf_eq_ok_iff] at hentry
  rcases hentry with ⟨hdec, hread⟩
  rcases opcode_of_declares r i row new hdec with ⟨j, hj⟩
  rcases mode_of_declares r i row new hdec with ⟨label, c, hlabel, hmode⟩
  rcases (insert_eq_ok_iff b b' new).mp hinsert with ⟨k, hslot, _, rfl⟩
  have hjk : j = k := by
    rw [hj, slotOf?_byte, Option.some.injEq] at hslot
    exact hslot
  rw [← hjk]
  refine renders_set r b j new hj ?_ (fun _ => ?_) h
  · rw [hmode]
    exact hr label c hlabel
  · exact isWritable_of_declares r i row new hdec hread

/-- A default has the code of an enabled mode, since seeding asks for that. -/
theorem renders_seed (r : Registry) (b : Builder) (rows : List ReferenceRow)
    (hlen : rows.length = opcodeSpace) (h : Renders r b) : Renders r (b.call (.seed rows)) := by
  have hcases : ∀ k e, (b.call (.seed rows)).get? k = some e →
      (∃ row, Builder.seeds r row = true ∧ .ofReference k row = e) ∨ b.get? k = some e := by
    intro k e he
    rw [get?_call_seed b rows k hlen, h.registry, Option.or_eq_some_iff] at he
    rcases he with hdefault | ⟨_, hold⟩
    · rcases Option.bind_eq_some_iff.mp hdefault with ⟨row, _, hrow⟩
      unfold default? at hrow
      split at hrow
      · rename_i hseeds
        exact Or.inl ⟨row, hseeds, Option.some.inj hrow⟩
      · exact absurd hrow (by simp only [reduceCtorEq, not_false_eq_true])
    · exact Or.inr hold
  refine ⟨?_, fun k e he => ?_, fun k e he => ?_, fun k e he => ?_⟩
  · rw [registry_call]
    exact h.registry
  · rcases hcases k e he with ⟨row, _, rfl⟩ | hold
    · rfl
    · exact h.placed k e hold
  · rcases hcases k e he with ⟨row, hseeds, rfl⟩ | hold
    · exact (Bool.and_eq_true_iff.mp hseeds).2
    · exact h.modes k e hold
  · rcases hcases k e he with ⟨row, _, rfl⟩ | hold
    · intro hdeclared
      rw [isDefault_ofReference] at hdeclared
      exact absurd hdeclared (by decide)
    · exact h.cycles k e hold

theorem renders_call (r : Registry) (hr : r.Coherent) (b : Builder) (c : Call)
    (hc : c.Checked) (h : Renders r b) : Renders r (b.call c) := by
  cases c with
  | seed rows =>
      by_cases hlen : rows.length = opcodeSpace
      · exact renders_seed r b rows hlen h
      · rw [call_seed, if_neg hlen]
        exact h
  | add i =>
      exact addRows_induction (Renders r) i (fun b row e b' => renders_insert r hr i b row e b')
        (fun b f hb => ⟨hb.registry, hb.placed, hb.modes, hb.cycles⟩) _ b 0 h
  | insert e => exact hc.elim

theorem renders_calls (r : Registry) (hr : r.Coherent) (cs : List Call)
    (hcs : ∀ c ∈ cs, c.Checked) : ∀ b, Renders r b → Renders r (b.calls cs) := by
  induction cs with
  | nil => intro b h; exact h
  | cons c rest ih =>
      intro b h
      exact ih (fun c' hc' => hcs c' (List.mem_cons_of_mem c hc')) (b.call c)
        (renders_call r hr b c (hcs c List.mem_cons_self) h)

theorem dispatch_eq_of_renders (r : Registry) (b : Builder) (h : Renders r b) :
    Rendering.dispatch r (.ofList b.entries)
      = if b.entries.all (·.cycles.isWritable)
        then .ok (Rendering.dispatchHead ++ "\n".intercalate (b.entries.map Rendering.armOf)
          ++ Rendering.dispatchTail)
        else .error .numberTooLong := by
  have hbytes : ∀ e ∈ b.entries, ∃ k : Fin opcodeSpace, e.opcode = k.val := by
    intro e he
    rcases (b.mem_entries_iff e).mp he with ⟨k, hk⟩
    exact ⟨k, h.placed k e hk⟩
  have hmodes : ∀ e ∈ b.entries, r.isEnabledCode e.mode = true := by
    intro e he
    rcases (b.mem_entries_iff e).mp he with ⟨k, hk⟩
    exact h.modes k e hk
  have hlist := entries_ofList b h.placed
  rw [Rendering.dispatch_eq r _ (by rw [hlist]; exact hbytes) (by rw [hlist]; exact hmodes), hlist,
    Rendering.byKey_eq b.entries hbytes (pairwise_entries b h.placed)]

/-- A table that is built of such slots is rendered, or the cycles of a default have no
    text. -/
theorem dispatch_of_renders (r : Registry) (b : Builder) (h : Renders r b) :
    (∃ s, Rendering.dispatch r (.ofList b.entries) = .ok s) ∨
    Rendering.dispatch r (.ofList b.entries) = .error .numberTooLong ∧
      ∃ e ∈ (Table.ofList b.entries).entries,
        e.isDefault = true ∧ e.cycles.isWritable = false := by
  rw [dispatch_eq_of_renders r b h, entries_ofList b h.placed]
  by_cases hall : b.entries.all (·.cycles.isWritable) = true
  · rw [if_pos hall]
    exact Or.inl ⟨_, rfl⟩
  · rw [if_neg hall]
    rw [List.all_eq_true] at hall
    push Not at hall
    rcases hall with ⟨e, he, hwritable⟩
    rcases (b.mem_entries_iff e).mp he with ⟨k, hk⟩
    have hdefault : e.isDefault = true := by
      by_contra hdeclared
      exact hwritable (h.cycles k e hk (Bool.eq_false_iff.mpr hdeclared))
    exact Or.inr ⟨rfl, e, he, hdefault, Bool.eq_false_iff.mpr hwritable⟩

/-- The row of an instruction that names a label and says nothing else of interest. -/
def hiddenRow (label : String) : Row :=
  ⟨[label, "", "$00", "", "1"]⟩

/-- The entry that it declares. -/
def hiddenEntry (label : String) (c : Capability) : Entry :=
  .ofColumns ⟨"", "", some [hiddenRow label], ""⟩ label c 0 [1] false

theorem entryOf_hiddenRow (r : Registry) (label : String) (c : Capability)
    (hlabel : r.enabledLabel? label = some c) :
    entryOf r ⟨"", "", some [hiddenRow label], ""⟩ (hiddenRow label)
      = .ok (hiddenEntry label c) := by
  have hfield : Row.cyclesOf? (Text.trim "1".toList) = some ([1], false) := rfl
  rw [entryOf_eq_ok_iff]
  refine ⟨.columns label "" "$00" "" "1" [] c 0 [1] false hlabel rfl hfield, ?_⟩
  intro s hs field hcycles
  have hone : "1" = s := Option.some.inj hs
  rw [← hone, hfield] at hcycles
  rw [← Option.some.inj hcycles]
  decide

theorem calls_hiddenRow (r : Registry) (label : String) (c : Capability)
    (hlabel : r.enabledLabel? label = some c) :
    (empty r).calls [.add ⟨"", "", some [hiddenRow label], ""⟩]
      = (empty r).set ⟨0, by decide⟩ (hiddenEntry label c) := by
  have hinsert : (empty r).insert (hiddenEntry label c)
      = .ok ((empty r).set ⟨0, by decide⟩ (hiddenEntry label c)) := by
    refine insert_ok (empty r) ⟨0, by decide⟩ (hiddenEntry label c) rfl fun old hold => ?_
    rw [get?_empty] at hold
    exact absurd hold (by simp only [reduceCtorEq, not_false_eq_true])
  have hrow : (empty r).addRow ⟨"", "", some [hiddenRow label], ""⟩ (hiddenRow label)
      = .ok ((empty r).set ⟨0, by decide⟩ (hiddenEntry label c)) := by
    unfold addRow
    rw [show (empty r).registry = r from rfl, entryOf_hiddenRow r label c hlabel]
    exact hinsert
  simp only [calls, List.foldl_cons, List.foldl_nil, call, add, Option.getD_some, addRows, hrow]

theorem entries_set_empty (r : Registry) (k : Fin opcodeSpace) (e : Entry)
    (hopcode : e.opcode = k.val) : ((empty r).set k e).entries = [e] := by
  have hslot : ∀ j x, ((empty r).set k e).get? j = some x → k = j ∧ e = x := by
    intro j x hx
    rw [get?_set, get?_empty] at hx
    by_cases hkj : k = j
    · rw [if_pos hkj, Option.some.injEq] at hx
      exact ⟨hkj, hx⟩
    · rw [if_neg hkj] at hx
      exact absurd hx (by simp only [reduceCtorEq, not_false_eq_true])
  have hmem : e ∈ ((empty r).set k e).entries := by
    rw [mem_entries_iff]
    exact ⟨k, by rw [get?_set, if_pos rfl]⟩
  have hsame : ∀ x ∈ ((empty r).set k e).entries, e = x := by
    intro x hx
    rcases (mem_entries_iff _ x).mp hx with ⟨j, hj⟩
    exact (hslot j x hj).2
  have hascend := pairwise_entries ((empty r).set k e) fun j x hx => by
    rcases hslot j x hx with ⟨rfl, rfl⟩
    exact hopcode
  rcases hentries : ((empty r).set k e).entries with _ | ⟨x, _ | ⟨y, rest⟩⟩
  · rw [hentries] at hmem
    exact absurd hmem List.not_mem_nil
  · rw [hsame x (by rw [hentries]; exact List.mem_cons_self)]
  · -- Two entries would have the same opcode.
    rw [hentries] at hsame hascend
    have hlt := (List.pairwise_cons.mp hascend).1 y List.mem_cons_self
    rw [← hsame x List.mem_cons_self, ← hsame y (List.mem_cons_of_mem x List.mem_cons_self)] at hlt
    omega

/-- A label whose code is hidden gives a table that is built and cannot be rendered. -/
theorem dispatch_hidden (r : Registry) (label : String) (c : Capability)
    (hlabel : r.enabledLabel? label = some c) (hcode : r.isEnabledCode c.code = false) :
    ∃ cs t, (∀ call ∈ cs, call.Checked) ∧ ((empty r).calls cs).build = .ok t ∧
      Rendering.dispatch r t = .error (.clock (.unsupportedMode "00" c.code)) := by
  have hnone : r.byCode? c.code = none := by
    rw [← Option.not_isSome_iff_eq_none]
    exact Bool.eq_false_iff.mp hcode
  have hwritable : (hiddenEntry label c).cycles.isWritable = true := by
    rcases (entryOf_eq_ok_iff r _ _ _).mp (entryOf_hiddenRow r label c hlabel) with ⟨hdec, hread⟩
    exact isWritable_of_declares r _ _ _ hdec hread
  have harm : Rendering.arm r (hiddenEntry label c)
      = .error (.clock (.unsupportedMode "00" c.code)) := by
    have hmode : r.byCode? (hiddenEntry label c).mode = none := hnone
    unfold Rendering.arm
    simp only [hwritable, hmode, Bool.not_true, Bool.false_eq_true, if_false]
    rfl
  have hentries : ((empty r).set ⟨0, by decide⟩ (hiddenEntry label c)).entries
      = [hiddenEntry label c] := entries_set_empty r ⟨0, by decide⟩ _ rfl
  refine ⟨[.add ⟨"", "", some [hiddenRow label], ""⟩], ⟨[hiddenEntry label c]⟩, ?_, ?_, ?_⟩
  · intro call hcall
    rw [List.mem_singleton.mp hcall]
    trivial
  · rw [calls_hiddenRow r label c hlabel, build_eq_ok_iff, hentries]
    refine ⟨rfl, ?_⟩
    unfold Table.ofList
    rw [List.mergeSort_singleton]
  · have hkeys : Rendering.checkKeys [hiddenEntry label c] = .ok () := by
      refine Rendering.checkKeys_eq _ fun e he => ⟨⟨0, by decide⟩, ?_⟩
      rw [List.mem_singleton.mp he]
      rfl
    unfold Rendering.dispatch Rendering.byKey
    rw [hkeys, List.mergeSort_singleton, List.mapM_cons, harm]
    rfl

/-- Every table that is built from seedings and instructions is rendered, up to defaults
    whose cycles have no text, exactly if the registry is coherent. -/
theorem coherent_iff_rendered (r : Registry) :
    r.Coherent ↔ ∀ cs t, (∀ c ∈ cs, c.Checked) → ((empty r).calls cs).build = .ok t →
      (∃ s, Rendering.dispatch r t = .ok s) ∨
      Rendering.dispatch r t = .error .numberTooLong ∧
        ∃ e ∈ t.entries, e.isDefault = true ∧ e.cycles.isWritable = false := by
  constructor
  · intro hr cs t hcs hbuild
    rcases (build_eq_ok_iff _ t).mp hbuild with ⟨_, rfl⟩
    exact dispatch_of_renders r _ (renders_calls r hr cs hcs _ (renders_empty r))
  · intro hall label c hlabel
    by_contra hcode
    rcases dispatch_hidden r label c hlabel (Bool.eq_false_iff.mpr hcode) with
      ⟨cs, t, hcs, hbuild, hdispatch⟩
    rcases hall cs t hcs hbuild with ⟨s, hs⟩ | ⟨hlong, _⟩
    · rw [hdispatch] at hs
      exact absurd hs (by simp only [reduceCtorEq, not_false_eq_true])
    · rw [hdispatch] at hlong
      exact absurd hlong (by simp only [Except.error.injEq, reduceCtorEq, not_false_eq_true])

/-- Two capabilities that share a code, of which the last one is disabled. -/
theorem sharedCode_not_rendered :
    let r := Registry.ofList [⟨"A", "x", true⟩, ⟨"B", "x", false⟩]
    ∃ cs t, (∀ c ∈ cs, c.Checked) ∧ ((empty r).calls cs).build = .ok t ∧
      Rendering.dispatch r t = .error (.clock (.unsupportedMode "00" "x")) := by
  intro r
  have hlabel : r.enabledLabel? "A" = some ⟨"A", "x", true⟩ := by decide
  have hcode : r.isEnabledCode "x" = false := by decide
  exact dispatch_hidden r "A" ⟨"A", "x", true⟩ hlabel hcode

end Builder

end Opcode

end OpcodeForge
