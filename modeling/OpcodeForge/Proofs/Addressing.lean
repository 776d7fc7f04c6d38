import Mathlib.Data.List.Nodup
import OpcodeForge.Addressing

/-!
# Codes of Modes

A row names its mode by a label and the dispatch calls it by its code, so a label that
resolves must have a code that resolves to the same mode. This is not so in every
registry: the last capability with a code hides the earlier ones. It is so as long as
no two capabilities share a code. Those of the processor do not, and setting flags
changes no code.

## Theorems

* `find?_setLabel`: Putting a mode in changes the look-up of its own label only.
* `mem_labelled_ofList`: A registry has only modes that it was given.
* `byLabel?_ofList`: The last mode that was given with a label counts.
* `byCode?_of_enabledLabel?`: An enabled mode is found by its code.
* `map_setFlags`: Flags change nothing else.
* `withOverrides_eq_ok_iff`: When a registry has another one under some flags.
* `byCode?_of_overrides`: Whatever the flags, the modes of the processor are found by
  their codes.
-/

namespace OpcodeForge.Addressing

theorem mem_setLabel (c x : Capability) (cs : List Capability) (h : x ∈ setLabel c cs) :
    x = c ∨ x ∈ cs := by
  induction cs with
  | nil => exact Or.inl (List.mem_singleton.mp h)
  | cons y rest ih =>
      unfold setLabel at h
      split at h
      · rcases List.mem_cons.mp h with hx | hx
        · exact Or.inl hx
        · exact Or.inr (List.mem_cons_of_mem y hx)
      · rcases List.mem_cons.mp h with hx | hx
        · exact Or.inr (hx ▸ List.mem_cons_self)
        · rcases ih hx with hc | hmem
          · exact Or.inl hc
          · exact Or.inr (List.mem_cons_of_mem y hmem)

theorem find?_setLabel (c : Capability) (cs : List Capability) (label : String) :
    (setLabel c cs).find? (·.label == label)
      = if c.label = label then some c else cs.find? (·.label == label) := by
  induction cs with
  | nil =>
      by_cases hc : c.label = label
      · simp [setLabel, hc]
      · simp [setLabel, hc]
  | cons x rest ih =>
      unfold setLabel
      by_cases hx : x.label = c.label
      · rw [if_pos hx, List.find?_cons, List.find?_cons, hx]
        by_cases hc : c.label = label
        · simp [hc]
        · simp only [beq_eq_false_iff_ne.mpr hc, if_neg hc]
      · rw [if_neg hx, List.find?_cons, List.find?_cons, ih]
        by_cases hl : x.label = label
        · have hc : c.label ≠ label := fun hc => hx (hl.trans hc.symm)
          simp [hl, hc]
        · simp only [beq_eq_false_iff_ne.mpr hl]

theorem mem_foldl_setLabel (x : Capability) (cs : List Capability) :
    ∀ acc, x ∈ cs.foldl (fun acc c => setLabel c acc) acc → x ∈ acc ∨ x ∈ cs := by
  induction cs with
  | nil => exact fun acc h => Or.inl h
  | cons c rest ih =>
      intro acc h
      rcases ih _ h with hacc | hrest
      · rcases mem_setLabel c x acc hacc with hx | hmem
        · exact Or.inr (hx ▸ List.mem_cons_self)
        · exact Or.inl hmem
      · exact Or.inr (List.mem_cons_of_mem c hrest)

namespace Registry

/-- A registry has only modes that it was given. -/
theorem mem_labelled_ofList (cs : List Capability) (x : Capability)
    (h : x ∈ (ofList cs).labelled) : x ∈ cs := by
  rcases mem_foldl_setLabel x cs [] h with hnil | hmem
  · exact absurd hnil List.not_mem_nil
  · exact hmem

/-- The mode with a label is the last one that was given with it. -/
theorem byLabel?_ofList (cs : List Capability) (label : String) :
    (ofList cs).byLabel? label = cs.reverse.find? (·.label == label) := by
  have hfold : ∀ acc, (cs.foldl (fun acc c => setLabel c acc) acc).find? (·.label == label)
      = (cs.reverse.find? (·.label == label)).or (acc.find? (·.label == label)) := by
    induction cs with
    | nil => intro acc; rfl
    | cons c rest ih =>
        intro acc
        rw [List.foldl_cons, ih, find?_setLabel, List.reverse_cons, List.find?_append,
          Option.or_assoc]
        by_cases hc : c.label = label
        · simp [hc]
        · simp [hc]
  have hnil := hfold []
  rw [List.find?_nil, Option.or_none] at hnil
  exact hnil

theorem byCode?_of_mem (cs : List Capability) (hcodes : (cs.map (·.code)).Nodup)
    (c : Capability) (hmem : c ∈ cs) (henabled : c.enabled = true) :
    (ofList cs).byCode? c.code = some c := by
  have hsome : (cs.reverse.find? (·.code == c.code)).isSome = true := by
    rw [List.find?_isSome]
    exact ⟨c, List.mem_reverse.mpr hmem, beq_self_eq_true c.code⟩
  rcases Option.isSome_iff_exists.mp hsome with ⟨x, hx⟩
  have hcode : x.code = c.code := by
    have hbeq := List.find?_some hx
    exact eq_of_beq hbeq
  have hxc : x = c :=
    List.inj_on_of_nodup_map hcodes (List.mem_reverse.mp (List.mem_of_find?_eq_some hx)) hmem hcode
  unfold byCode?
  rw [show (ofList cs).coded = cs.reverse from rfl, hx, hxc, Option.filter_some, if_pos henabled]

/-- An enabled mode is found by its code, if no two modes share one. -/
theorem byCode?_of_enabledLabel? (cs : List Capability) (hcodes : (cs.map (·.code)).Nodup)
    (label : String) (c : Capability) (h : (ofList cs).enabledLabel? label = some c) :
    (ofList cs).byCode? c.code = some c := by
  rcases Option.filter_eq_some_iff.mp h with ⟨hfind, henabled⟩
  exact byCode?_of_mem cs hcodes c (mem_labelled_ofList cs c (List.mem_of_find?_eq_some hfind))
    henabled

/-- A mode that is put in the place of one with its label changes nothing that its flag does
    not count for. -/
theorem map_setLabel {α : Type} (f : Capability → α)
    (hf : ∀ c flag, f { c with enabled := flag } = f c) (cs : List Capability) (label : String)
    (flag : Bool) (c : Capability) (h : cs.find? (·.label == label) = some c) :
    (setLabel { c with enabled := flag } cs).map f = cs.map f := by
  have hlabel : c.label = label := by
    have hbeq := List.find?_some h
    exact eq_of_beq hbeq
  induction cs with
  | nil => exact absurd h (by simp only [List.find?_nil, reduceCtorEq, not_false_eq_true])
  | cons x rest ih =>
      unfold setLabel
      by_cases hx : x.label = label
      · simp only [List.find?_cons, beq_iff_eq.mpr hx] at h
        rw [if_pos (hx.trans hlabel.symm), List.map_cons, List.map_cons, hf, Option.some.inj h]
      · simp only [List.find?_cons, beq_eq_false_iff_ne.mpr hx] at h
        rw [if_neg fun hc => hx (hc.trans hlabel), List.map_cons, List.map_cons, ih h]

theorem map_setFlags {α : Type} (f : Capability → α)
    (hf : ∀ c flag, f { c with enabled := flag } = f c) (flags : List (String × Bool)) :
    ∀ cs ds, setFlags cs flags = .ok ds → ds.map f = cs.map f := by
  induction flags with
  | nil =>
      intro cs ds h
      rw [Except.ok.inj h]
  | cons x rest ih =>
      intro cs ds h
      unfold setFlags at h
      split at h
      · exact absurd h (by simp only [reduceCtorEq, not_false_eq_true])
      · rename_i c hc
        rw [ih _ ds h, map_setLabel f hf cs x.1 x.2 c hc]

theorem withOverrides_eq_ok_iff (r r' : Registry) (flags : List (String × Bool)) :
    r.withOverrides flags = .ok r' ↔ ∃ ds, setFlags r.labelled flags = .ok ds ∧ ofList ds = r' := by
  unfold withOverrides
  cases setFlags r.labelled flags with
  | error f => simp only [Except.map, reduceCtorEq, false_and, exists_false]
  | ok ds => simp only [Except.map, Except.ok.injEq, exists_eq_left']

/-- Whatever the flags, the modes of the processor are found by their codes. -/
theorem byCode?_of_overrides (flags : List (String × Bool)) (r : Registry)
    (h : default.withOverrides flags = .ok r) (label : String) (c : Capability)
    (hc : r.enabledLabel? label = some c) : r.byCode? c.code = some c := by
  rcases (withOverrides_eq_ok_iff default r flags).mp h with ⟨ds, hset, rfl⟩
  refine byCode?_of_enabledLabel? ds ?_ label c hc
  rw [map_setFlags (·.code) (fun _ _ => rfl) flags _ ds hset]
  decide

end Registry

end OpcodeForge.Addressing
