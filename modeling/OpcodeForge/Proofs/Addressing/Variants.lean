import OpcodeForge.Proofs.Addressing

/-!
# Registries with Other Flags

A run sets flags on a registry before it looks anything up. What two such registries have in
common is everything but the flags: one mode for each label, in the same order and with the
same code (`Variants`). A list of capabilities may have a label or a code more than once, but
a registry keeps one mode for each label, and after flags were set the look-up by code goes
through these modes only.

So a label that resolves in both of them resolves to the same mode. If moreover each label of
the one resolves in the other then so does each code, since the mode that decides about a
code is in the same place in both (`within_of_contains`).

## Main definitions

* `Registry.Tidy`: A registry with one mode for each label, of which it also knows the codes.
* `Registry.Variants`: Two registries that differ in their flags only.
* `Registry.Within`: What resolves in one registry resolves to the same in another.

## Theorems

* `setLabel_of_new`, `labels_setLabel_of_mem`: Putting a mode in adds its label unless it is there.
* `labelled_ofList_of_nodup`: Capabilities with different labels are kept as they are.
* `exists_overrides`: Flags can be set for the labels that a registry knows.
* `variants_of_overrides`: Flags give variants of one registry.
* `enabledLabel?_eq_some_iff_of_nodup`: What a label resolves to where it is that of one mode.
* `Variants.enabledLabel?_agree`: A label resolves to the same mode in variants.
* `Variants.within_of_contains`: Labels are all that counts for variants.
-/

namespace OpcodeForge.Addressing

/-- What a flag does not change about a mode. -/
def Capability.mode (c : Capability) : String × String :=
  (c.label, c.code)

theorem setLabel_of_new (c : Capability) (cs : List Capability)
    (h : c.label ∉ cs.map (·.label)) : setLabel c cs = cs ++ [c] := by
  induction cs with
  | nil => rfl
  | cons x rest ih =>
      rw [List.map_cons, List.mem_cons, not_or] at h
      unfold setLabel
      rw [if_neg fun heq => h.1 heq.symm, ih h.2, List.cons_append]

theorem labels_setLabel_of_mem (c : Capability) (cs : List Capability)
    (h : c.label ∈ cs.map (·.label)) :
    (setLabel c cs).map (·.label) = cs.map (·.label) := by
  induction cs with
  | nil => exact absurd h List.not_mem_nil
  | cons x rest ih =>
      unfold setLabel
      by_cases hx : x.label = c.label
      · rw [if_pos hx, List.map_cons, List.map_cons, hx]
      · rw [List.map_cons, List.mem_cons] at h
        rw [if_neg hx, List.map_cons, List.map_cons, ih (h.resolve_left fun heq => hx heq.symm)]

theorem nodup_labels_setLabel (c : Capability) (cs : List Capability)
    (h : (cs.map (·.label)).Nodup) : ((setLabel c cs).map (·.label)).Nodup := by
  by_cases hmem : c.label ∈ cs.map (·.label)
  · rw [labels_setLabel_of_mem c cs hmem]
    exact h
  · rw [setLabel_of_new c cs hmem, List.map_append, List.nodup_append]
    refine ⟨h, List.nodup_singleton _, fun a ha b hb hab => ?_⟩
    rw [hab, List.mem_singleton.mp hb] at ha
    exact hmem ha

namespace Registry

/-- A registry keeps one mode for each label, whatever it was given. -/
theorem nodup_labels_ofList (cs : List Capability) :
    ((ofList cs).labelled.map (·.label)).Nodup := by
  have hfold : ∀ acc : List Capability, (acc.map (·.label)).Nodup →
      ((cs.foldl (fun acc c => setLabel c acc) acc).map (·.label)).Nodup := by
    induction cs with
    | nil => exact fun acc h => h
    | cons c rest ih => exact fun acc h => ih _ (nodup_labels_setLabel c acc h)
  exact hfold [] List.nodup_nil

/-- Capabilities with different labels are kept as they are. -/
theorem labelled_ofList_of_nodup (cs : List Capability) (h : (cs.map (·.label)).Nodup) :
    (ofList cs).labelled = cs := by
  have hfold : ∀ acc : List Capability, ((acc ++ cs).map (·.label)).Nodup →
      cs.foldl (fun acc c => setLabel c acc) acc = acc ++ cs := by
    clear h
    induction cs with
    | nil => exact fun acc _ => (List.append_nil acc).symm
    | cons c rest ih =>
        intro acc hnodup
        have hnew : c.label ∉ acc.map (·.label) := by
          rw [List.map_append, List.nodup_append] at hnodup
          exact fun hmem => hnodup.2.2 _ hmem _ (List.mem_map_of_mem List.mem_cons_self) rfl
        rw [List.foldl_cons, setLabel_of_new c acc hnew, ih _ (by rwa [← List.append_cons]),
          ← List.append_cons]
  exact hfold [] h

/-- A registry with one mode for each label, of which it also knows the codes. -/
structure Tidy (r : Registry) : Prop where
  labels : (r.labelled.map (·.label)).Nodup
  coded : r.coded = r.labelled.reverse

/-- Two registries that differ in their flags only. -/
structure Variants (r r' : Registry) : Prop where
  tidy : r.Tidy
  tidy' : r'.Tidy
  modes : r.labelled.map Capability.mode = r'.labelled.map Capability.mode

/-- What resolves in one registry resolves to the same in another. -/
structure Within (r r' : Registry) : Prop where
  label : ∀ label c, r.enabledLabel? label = some c → r'.enabledLabel? label = some c
  code : ∀ code, r.isEnabledCode code = true → r'.isEnabledCode code = true

/-- Flags can be set for the labels that a registry knows. -/
theorem exists_overrides (r : Registry) (flags : List (String × Bool))
    (h : ∀ x ∈ flags, (r.byLabel? x.1).isSome = true) :
    ∃ r', r.withOverrides flags = .ok r' := by
  have hset : ∀ cs : List Capability,
      (∀ x ∈ flags, (cs.find? (·.label == x.1)).isSome = true) →
        ∃ ds, setFlags cs flags = .ok ds := by
    clear h
    induction flags with
    | nil => exact fun cs _ => ⟨cs, rfl⟩
    | cons x rest ih =>
        intro cs hknown
        rcases Option.isSome_iff_exists.mp (hknown x List.mem_cons_self) with ⟨c, hc⟩
        unfold setFlags
        simp only [hc]
        refine ih _ fun y hy => ?_
        -- Setting a flag makes no label unknown.
        rw [find?_setLabel]
        split
        · rfl
        · exact hknown y (List.mem_cons_of_mem x hy)
  rcases hset r.labelled h with ⟨ds, hds⟩
  exact ⟨_, (withOverrides_eq_ok_iff r _ flags).mpr ⟨ds, hds, rfl⟩⟩

theorem tidy_of_overrides (cs : List Capability) (flags : List (String × Bool)) (r : Registry)
    (h : (ofList cs).withOverrides flags = .ok r) :
    r.Tidy ∧ r.labelled.map Capability.mode = (ofList cs).labelled.map Capability.mode := by
  rcases (withOverrides_eq_ok_iff _ r flags).mp h with ⟨ds, hset, rfl⟩
  have hlabels : (ds.map (·.label)).Nodup := by
    rw [map_setFlags (·.label) (fun _ _ => rfl) flags _ ds hset]
    exact nodup_labels_ofList cs
  have hlist := labelled_ofList_of_nodup ds hlabels
  refine ⟨⟨by rw [hlist]; exact hlabels, ?_⟩, ?_⟩
  · rw [hlist]
    rfl
  · rw [hlist]
    exact map_setFlags Capability.mode (fun _ _ => rfl) flags _ ds hset

/-- Flags give variants of one registry. -/
theorem variants_of_overrides (cs : List Capability) (flags flags' : List (String × Bool))
    (r r' : Registry) (h : (ofList cs).withOverrides flags = .ok r)
    (h' : (ofList cs).withOverrides flags' = .ok r') : Variants r r' := by
  rcases tidy_of_overrides cs flags r h with ⟨htidy, hmodes⟩
  rcases tidy_of_overrides cs flags' r' h' with ⟨htidy', hmodes'⟩
  exact ⟨htidy, htidy', hmodes.trans hmodes'.symm⟩

/-- Where no two modes share a label, it resolves to the mode that has it, if that is enabled. -/
theorem enabledLabel?_eq_some_iff_of_nodup (r : Registry) (h : (r.labelled.map (·.label)).Nodup)
    (label : String) (c : Capability) : r.enabledLabel? label = some c ↔
      c ∈ r.labelled ∧ c.label = label ∧ c.enabled = true := by
  unfold enabledLabel? byLabel?
  rw [Option.filter_eq_some_iff]
  constructor
  · rintro ⟨hfind, henabled⟩
    have hbeq := List.find?_some hfind
    exact ⟨List.mem_of_find?_eq_some hfind, eq_of_beq hbeq, henabled⟩
  · rintro ⟨hmem, rfl, henabled⟩
    have hsome : (r.labelled.find? (·.label == c.label)).isSome = true := by
      rw [List.find?_isSome]
      exact ⟨c, hmem, beq_self_eq_true c.label⟩
    rcases Option.isSome_iff_exists.mp hsome with ⟨x, hx⟩
    have hbeq := List.find?_some hx
    have hlabel : x.label = c.label := eq_of_beq hbeq
    rw [hx, List.inj_on_of_nodup_map h (List.mem_of_find?_eq_some hx) hmem hlabel]
    exact ⟨rfl, henabled⟩

theorem Tidy.enabledLabel?_eq_some_iff {r : Registry} (h : r.Tidy) (label : String)
    (c : Capability) : r.enabledLabel? label = some c ↔
      c ∈ r.labelled ∧ c.label = label ∧ c.enabled = true :=
  enabledLabel?_eq_some_iff_of_nodup r h.labels label c

namespace Variants

variable {r r' : Registry}

theorem symm (h : Variants r r') : Variants r' r :=
  ⟨h.tidy', h.tidy, h.modes.symm⟩

/-- Modes with one label have one code. -/
theorem mode_eq (h : Variants r r') (c c' : Capability) (hc : c ∈ r.labelled)
    (hc' : c' ∈ r'.labelled) (hlabel : c.label = c'.label) : c.mode = c'.mode := by
  have hmem : c.mode ∈ r'.labelled.map Capability.mode := by
    rw [← h.modes]
    exact List.mem_map_of_mem hc
  rcases List.mem_map.mp hmem with ⟨x, hx, hmode⟩
  have hx' : x.label = c'.label := (congrArg Prod.fst hmode).trans hlabel
  rw [← hmode, List.inj_on_of_nodup_map h.tidy'.labels hx hc' hx']

/-- A label resolves to the same mode in variants. -/
theorem enabledLabel?_agree (h : Variants r r') (label : String) (c c' : Capability)
    (hc : r.enabledLabel? label = some c) (hc' : r'.enabledLabel? label = some c') : c = c' := by
  rcases (h.tidy.enabledLabel?_eq_some_iff label c).mp hc with ⟨hmem, hlabel, henabled⟩
  rcases (h.tidy'.enabledLabel?_eq_some_iff label c').mp hc' with ⟨hmem', hlabel', henabled'⟩
  have hmode := h.mode_eq c c' hmem hmem' (hlabel.trans hlabel'.symm)
  rcases c with ⟨l, code, enabled⟩
  rcases c' with ⟨l', code', enabled'⟩
  rcases Prod.mk.inj hmode with ⟨hl, hcode⟩
  rw [Capability.mk.injEq]
  exact ⟨hl, hcode, henabled.trans henabled'.symm⟩

/-- The mode that decides about a code is the same in variants, up to its flag. -/
theorem find?_code (h : Variants r r') (code : String) :
    (r.coded.find? (·.code == code)).map Capability.mode
      = (r'.coded.find? (·.code == code)).map Capability.mode := by
  have hfind : ∀ cs : List Capability, (cs.find? (·.code == code)).map Capability.mode
      = (cs.map Capability.mode).find? (·.2 == code) := by
    intro cs
    rw [List.find?_map]
    rfl
  rw [hfind, hfind, h.tidy.coded, h.tidy'.coded, List.map_reverse, List.map_reverse, h.modes]

/-- If each label of the one is one of the other, then all that resolves in the one
    resolves to the same in the other. -/
theorem within_of_contains (h : Variants r r')
    (hmore : ∀ label, r.contains label = true → r'.contains label = true) : Within r r' := by
  constructor
  · intro label c hc
    rcases Option.isSome_iff_exists.mp (hmore label (Option.isSome_of_eq_some hc)) with ⟨c', hc'⟩
    rw [h.enabledLabel?_agree label c c' hc hc']
    exact hc'
  · intro code hcode
    rcases Option.isSome_iff_exists.mp hcode with ⟨c, hc⟩
    rcases Option.filter_eq_some_iff.mp hc with ⟨hfind, henabled⟩
    have hsame := h.find?_code code
    rw [hfind, Option.map_some] at hsame
    rcases Option.map_eq_some_iff.mp hsame.symm with ⟨c', hfind', hmode⟩
    have hmem : c ∈ r.labelled := by
      rw [← List.mem_reverse, ← h.tidy.coded]
      exact List.mem_of_find?_eq_some hfind
    have hmem' : c' ∈ r'.labelled := by
      rw [← List.mem_reverse, ← h.tidy'.coded]
      exact List.mem_of_find?_eq_some hfind'
    have hlabel : c'.label = c.label := congrArg Prod.fst hmode
    -- The label of the mode resolves in the one, so it does in the other.
    have hresolves := (h.tidy.enabledLabel?_eq_some_iff c.label c).mpr ⟨hmem, rfl, henabled⟩
    rcases Option.isSome_iff_exists.mp (hmore c.label (Option.isSome_of_eq_some hresolves)) with
      ⟨x, hx⟩
    rcases (h.tidy'.enabledLabel?_eq_some_iff c.label x).mp hx with ⟨hxmem, hxlabel, hxenabled⟩
    have hxc : x = c' := List.inj_on_of_nodup_map h.tidy'.labels hxmem hmem'
      (hxlabel.trans hlabel.symm)
    unfold isEnabledCode byCode?
    rw [hfind', Option.filter_some, if_pos (hxc ▸ hxenabled)]
    rfl

end Variants

end Registry

end OpcodeForge.Addressing
