import OpcodeForge.Proofs.Addressing.Queries
import OpcodeForge.Settings.Basic

/-!
# Flags Set Twice

Flags are set one after the other, and each of them makes a new list of modes, from which a
new registry is made in the end. What comes of it does not depend on these steps. Either some
label is unknown, and the first one is reported, or each mode takes the flag that the map has
for its label and keeps everything else, its place included (`withOverrides_ofList`).

So flags that are set on a registry which has got its flags from another map are those of one
map, the first one updated by the second. Updating keeps the places of the labels that are
there and puts new ones at the end, and therefore the first unknown label stays the first. As
long as no label is unknown the order of a map does not matter.

## Main definitions

* `Settings.updated`: A map of flags updated by another one.
* `Capability.flagged`: A mode with the flag that a map has for it.
* `Registry.unknown?`: The first label of a map that a registry does not know.

## Theorems

* `Settings.lookup_updated`, `Settings.find?_labels_updated`: What an updated map holds.
* `setLabel_eq_map`: One flag is set for the mode with its label only.
* `setFlags_eq`: What comes of all flags of a map.
* `Registry.withOverrides_ofList`: The registry with these flags, or the report.
* `Registry.withOverrides_perm`: The order of known labels does not matter.
* `Registry.withOverrides_updated`: Flags set twice are those of the updated map.
-/

namespace OpcodeForge

namespace Settings

/-- The flags of a map after those of another one were put into it. -/
def updated (flags more : List (String × Bool)) : List (String × Bool) :=
  more.foldl (fun fs x => setFlag x.1 x.2 fs) flags

theorem lookup_cons_eq (x : String × Bool) (flags : List (String × Bool)) (label : String) :
    (x :: flags).lookup label = if label = x.1 then some x.2 else flags.lookup label := by
  rw [List.lookup_cons]
  by_cases h : label = x.1
  · rw [if_pos h, beq_iff_eq.mpr h]
  · rw [if_neg h, beq_eq_false_iff_ne.mpr h]

theorem lookup_of_not_mem (flags : List (String × Bool)) (label : String)
    (h : label ∉ flags.map Prod.fst) : flags.lookup label = none := by
  rw [List.lookup_eq_none_iff]
  intro x hx
  rw [bne_iff_ne]
  exact fun heq => h (heq ▸ List.mem_map_of_mem hx)

/-- A flag is found exactly if the map has it. -/
theorem lookup_eq_some_iff (flags : List (String × Bool)) (h : (flags.map Prod.fst).Nodup)
    (label : String) (flag : Bool) :
    flags.lookup label = some flag ↔ (label, flag) ∈ flags := by
  induction flags with
  | nil => simp only [List.lookup_nil, reduceCtorEq, List.not_mem_nil]
  | cons x rest ih =>
      rw [List.map_cons, List.nodup_cons] at h
      rw [lookup_cons_eq, List.mem_cons]
      by_cases hl : label = x.1
      · have hnew : (label, flag) ∉ rest := fun hmem =>
          h.1 (hl ▸ List.mem_map_of_mem hmem)
        rw [if_pos hl, or_iff_left hnew, Option.some.injEq, Prod.ext_iff, and_iff_right hl,
          eq_comm]
      · rw [if_neg hl, ih h.2, or_iff_right fun heq => hl (congrArg Prod.fst heq)]

theorem lookup_perm (flags flags' : List (String × Bool)) (hperm : flags.Perm flags')
    (h : (flags.map Prod.fst).Nodup) (label : String) :
    flags.lookup label = flags'.lookup label := by
  refine Option.ext fun flag => ?_
  rw [lookup_eq_some_iff flags h, lookup_eq_some_iff flags' ((hperm.map _).nodup_iff.mp h),
    hperm.mem_iff]

theorem lookup_setFlag (label l : String) (flag : Bool) (flags : List (String × Bool)) :
    (setFlag label flag flags).lookup l = if l = label then some flag else flags.lookup l := by
  induction flags with
  | nil => exact lookup_cons_eq (label, flag) [] l
  | cons x rest ih =>
      unfold setFlag
      by_cases hx : x.1 = label
      · rw [if_pos hx, lookup_cons_eq, lookup_cons_eq, hx]
        by_cases hl : l = label
        · rw [if_pos hl, if_pos hl]
        · rw [if_neg hl, if_neg hl, if_neg hl]
      · rw [if_neg hx, lookup_cons_eq, lookup_cons_eq, ih]
        by_cases hl : l = x.1
        · have hne : l ≠ label := fun h => hx (hl.symm.trans h)
          rw [if_pos hl, if_neg hne, if_pos hl]
        · rw [if_neg hl, if_neg hl]

/-- A flag that is put in makes its label one more to be found, but not before the others. -/
theorem find?_labels_setFlag (p : String → Bool) (label : String) (flag : Bool)
    (flags : List (String × Bool)) :
    ((setFlag label flag flags).map Prod.fst).find? p
      = ((flags.map Prod.fst).find? p).or ([label].find? p) := by
  induction flags with
  | nil => rfl
  | cons x rest ih =>
      unfold setFlag
      by_cases hx : x.1 = label
      · rw [if_pos hx, ← hx]
        simp only [List.map_cons, List.find?_cons, List.find?_nil]
        cases p x.1 with
        | true => rfl
        | false => exact Option.or_none.symm
      · rw [if_neg hx, List.map_cons, List.map_cons, List.find?_cons, List.find?_cons, ih]
        cases p x.1 <;> rfl

theorem mem_labels_setFlag (label l : String) (flag : Bool) (flags : List (String × Bool))
    (h : l ∈ (setFlag label flag flags).map Prod.fst) : l = label ∨ l ∈ flags.map Prod.fst := by
  induction flags with
  | nil => exact Or.inl (List.mem_singleton.mp h)
  | cons x rest ih =>
      rw [List.map_cons, List.mem_cons]
      unfold setFlag at h
      by_cases hx : x.1 = label
      · rw [if_pos hx, List.map_cons, List.mem_cons] at h
        exact Or.inr h
      · rw [if_neg hx, List.map_cons, List.mem_cons] at h
        rcases h with heq | hmem
        · exact Or.inr (Or.inl heq)
        · exact (ih hmem).imp_right Or.inr

theorem nodup_labels_setFlag (label : String) (flag : Bool) (flags : List (String × Bool))
    (h : (flags.map Prod.fst).Nodup) : ((setFlag label flag flags).map Prod.fst).Nodup := by
  induction flags with
  | nil => exact List.nodup_singleton label
  | cons x rest ih =>
      rw [List.map_cons, List.nodup_cons] at h
      unfold setFlag
      by_cases hx : x.1 = label
      · rw [if_pos hx, List.map_cons, List.nodup_cons]
        exact h
      · rw [if_neg hx, List.map_cons, List.nodup_cons]
        exact ⟨fun hmem => (mem_labels_setFlag label x.1 flag rest hmem).elim hx h.1, ih h.2⟩

variable (flags more : List (String × Bool))

theorem nodup_labels_updated (h : (flags.map Prod.fst).Nodup) :
    ((updated flags more).map Prod.fst).Nodup := by
  unfold updated
  induction more generalizing flags with
  | nil => exact h
  | cons x rest ih => exact ih _ (nodup_labels_setFlag x.1 x.2 flags h)

/-- An updated map has the flags of the second map, and those of the first for other labels. -/
theorem lookup_updated (h : (more.map Prod.fst).Nodup) (label : String) :
    (updated flags more).lookup label = (more.lookup label).or (flags.lookup label) := by
  unfold updated
  induction more generalizing flags with
  | nil => rfl
  | cons x rest ih =>
      rw [List.map_cons, List.nodup_cons] at h
      rw [List.foldl_cons, ih _ h.2, lookup_setFlag, lookup_cons_eq]
      by_cases hl : label = x.1
      · -- The label does not come up again.
        rw [if_pos hl, if_pos hl, lookup_of_not_mem rest label (hl ▸ h.1)]
        rfl
      · rw [if_neg hl, if_neg hl]

/-- The labels of an updated map are searched in the first map and then in the second. -/
theorem find?_labels_updated (p : String → Bool) :
    ((updated flags more).map Prod.fst).find? p
      = ((flags.map Prod.fst).find? p).or ((more.map Prod.fst).find? p) := by
  unfold updated
  induction more generalizing flags with
  | nil => rw [List.map_nil, List.find?_nil, Option.or_none, List.foldl_nil]
  | cons x rest ih =>
      rw [List.foldl_cons, ih, find?_labels_setFlag, Option.or_assoc, List.map_cons,
        List.find?_singleton, List.find?_cons]
      cases p x.1 <;> rfl

end Settings

namespace Addressing

/-- A mode with the flag that a map has for it. Without one it keeps its own. -/
def Capability.flagged (flags : List (String × Bool)) (c : Capability) : Capability :=
  { c with enabled := (flags.lookup c.label).getD c.enabled }

theorem map_label_flagged (flags : List (String × Bool)) (cs : List Capability) :
    (cs.map (·.flagged flags)).map (·.label) = cs.map (·.label) := by
  rw [List.map_map]
  rfl

/-- One flag is set for the mode with its label only. -/
theorem setLabel_eq_map (cs : List Capability) (hcs : (cs.map (·.label)).Nodup)
    (label : String) (flag : Bool) (c : Capability)
    (h : cs.find? (·.label == label) = some c) :
    setLabel { c with enabled := flag } cs = cs.map (·.flagged [(label, flag)]) := by
  have hbeq := List.find?_some h
  have hlabel : c.label = label := eq_of_beq hbeq
  have hsame : ∀ x : Capability, x.label ≠ label → x.flagged [(label, flag)] = x := by
    intro x hx
    simp only [Capability.flagged, Settings.lookup_cons_eq, if_neg hx, List.lookup_nil,
      Option.getD_none]
  induction cs with
  | nil => exact absurd h (by simp only [List.find?_nil, reduceCtorEq, not_false_eq_true])
  | cons x rest ih =>
      rw [List.map_cons, List.nodup_cons] at hcs
      unfold setLabel
      by_cases hx : x.label = label
      · have hxc : x = c := by
          simp only [List.find?_cons, beq_iff_eq.mpr hx] at h
          exact Option.some.inj h
        -- None of the others has the label, so they stay.
        have hrest : rest.map (·.flagged [(label, flag)]) = rest := by
          refine (List.map_congr_left fun y hy => hsame y fun hy' => hcs.1 ?_).trans
            (List.map_id rest)
          rw [hx, ← hy']
          exact List.mem_map_of_mem hy
        rw [if_pos (hx.trans hlabel.symm), List.map_cons, hrest, ← hxc]
        simp only [Capability.flagged, Settings.lookup_cons_eq, if_pos hx, Option.getD_some]
      · simp only [List.find?_cons, beq_eq_false_iff_ne.mpr hx] at h
        rw [if_neg fun hc => hx (hc.trans hlabel), List.map_cons, hsame x hx, ih hcs.2 h]

theorem flagged_flagged (flags more both : List (String × Bool))
    (h : ∀ label, both.lookup label = (more.lookup label).or (flags.lookup label))
    (c : Capability) : (c.flagged flags).flagged more = c.flagged both := by
  simp only [Capability.flagged, h]
  cases more.lookup c.label <;> rfl

/-- The first label of a map that none of the modes has. -/
def unknown? (cs : List Capability) (flags : List (String × Bool)) : Option String :=
  (flags.map Prod.fst).find? fun label => (cs.find? (·.label == label)).isNone

theorem unknown?_flagged (flags more : List (String × Bool)) (cs : List Capability) :
    unknown? (cs.map (·.flagged flags)) more = unknown? cs more := by
  unfold unknown?
  simp only [List.find?_map, Option.isNone_map]
  rfl

theorem unknown?_cons (cs : List Capability) (x : String × Bool) (rest : List (String × Bool)) :
    unknown? cs (x :: rest) = match cs.find? (·.label == x.1) with
      | none => some x.1
      | some _ => unknown? cs rest := by
  unfold unknown?
  rw [List.map_cons, List.find?_cons]
  cases cs.find? (·.label == x.1) <;> rfl

/-- What comes of all flags of a map: the first unknown label, or modes with the flags. -/
theorem setFlags_eq (flags : List (String × Bool)) (hflags : (flags.map Prod.fst).Nodup) :
    ∀ cs : List Capability, (cs.map (·.label)).Nodup →
      Registry.setFlags cs flags = match unknown? cs flags with
        | some label => .error (.config (.unknownLabel label))
        | none => .ok (cs.map (·.flagged flags)) := by
  induction flags with
  | nil => exact fun cs _ => congrArg Except.ok (List.map_id cs).symm
  | cons x rest ih =>
      intro cs hcs
      rw [List.map_cons, List.nodup_cons] at hflags
      unfold Registry.setFlags
      rw [unknown?_cons]
      cases hfind : cs.find? (·.label == x.1) with
      | none => rfl
      | some c =>
          have hlookup : ∀ label, (x :: rest).lookup label
              = (rest.lookup label).or ([(x.1, x.2)].lookup label) := by
            intro label
            rw [Settings.lookup_cons_eq, Settings.lookup_cons_eq]
            by_cases hl : label = x.1
            · rw [if_pos hl, if_pos hl, Settings.lookup_of_not_mem rest label (hl ▸ hflags.1)]
              rfl
            · rw [if_neg hl, if_neg hl, List.lookup_nil, Option.or_none]
          dsimp only
          rw [setLabel_eq_map cs hcs x.1 x.2 c hfind, ih hflags.2 _ (by rwa [map_label_flagged]),
            unknown?_flagged, List.map_map]
          simp only [Function.comp_def, flagged_flagged _ _ _ hlookup]

theorem flagged_congr (flags flags' : List (String × Bool))
    (h : ∀ label, flags.lookup label = flags'.lookup label) (cs : List Capability) :
    cs.map (·.flagged flags) = cs.map (·.flagged flags') := by
  simp only [Capability.flagged, h]

namespace Registry

variable (cs : List Capability) (flags : List (String × Bool))

/-- The registry with the flags of a map, or the report of its first unknown label. -/
theorem withOverrides_ofList (hflags : (flags.map Prod.fst).Nodup) :
    (ofList cs).withOverrides flags = match unknown? (ofList cs).labelled flags with
      | some label => .error (.config (.unknownLabel label))
      | none => .ok (ofList ((ofList cs).labelled.map (·.flagged flags))) := by
  unfold withOverrides
  rw [setFlags_eq flags hflags _ (nodup_labels_ofList cs)]
  cases unknown? (ofList cs).labelled flags <;> rfl

/-- The modes keep their places when flags are set. -/
theorem labelled_flagged :
    (ofList ((ofList cs).labelled.map (·.flagged flags))).labelled
      = (ofList cs).labelled.map (·.flagged flags) :=
  labelled_ofList_of_nodup _ (by
    rw [map_label_flagged]
    exact nodup_labels_ofList cs)

theorem byLabel?_flagged (label : String) :
    (ofList ((ofList cs).labelled.map (·.flagged flags))).byLabel? label
      = ((ofList cs).byLabel? label).map fun c =>
        { c with enabled := (flags.lookup label).getD c.enabled } := by
  unfold byLabel?
  rw [labelled_flagged, List.find?_map]
  change ((ofList cs).labelled.find? (·.label == label)).map (·.flagged flags) = _
  cases hfind : (ofList cs).labelled.find? (·.label == label) with
  | none => rfl
  | some c =>
      have hbeq := List.find?_some hfind
      rw [Option.map_some, Option.map_some, Capability.flagged, eq_of_beq hbeq]

theorem unknown?_eq_none_iff : unknown? (ofList cs).labelled flags = none ↔
    ∀ x ∈ flags, ((ofList cs).byLabel? x.1).isSome = true := by
  unfold unknown? byLabel?
  rw [List.find?_eq_none, List.forall_mem_map]
  simp only [Bool.not_eq_true, Option.isNone_eq_false_iff]

/-- The order of a map does not matter as long as all of its labels are known. -/
theorem withOverrides_perm (flags' : List (String × Bool)) (hperm : flags.Perm flags')
    (hflags : (flags.map Prod.fst).Nodup)
    (hknown : ∀ x ∈ flags, ((ofList cs).byLabel? x.1).isSome = true) :
    ∃ r, (ofList cs).withOverrides flags = .ok r ∧ (ofList cs).withOverrides flags' = .ok r := by
  have hflags' : (flags'.map Prod.fst).Nodup := (hperm.map _).nodup_iff.mp hflags
  have hknown' := fun x hx => hknown x (hperm.mem_iff.mpr hx)
  refine ⟨ofList ((ofList cs).labelled.map (·.flagged flags)), ?_, ?_⟩
  · rw [withOverrides_ofList cs flags hflags, (unknown?_eq_none_iff cs flags).mpr hknown]
  · rw [withOverrides_ofList cs flags' hflags', (unknown?_eq_none_iff cs flags').mpr hknown',
      flagged_congr flags flags' (Settings.lookup_perm flags flags' hperm hflags)]

/-- Flags that are set twice are those of the updated map. -/
theorem withOverrides_updated (more : List (String × Bool))
    (hflags : (flags.map Prod.fst).Nodup) (hmore : (more.map Prod.fst).Nodup) :
    ((ofList cs).withOverrides flags >>= fun r => r.withOverrides more)
      = (ofList cs).withOverrides (Settings.updated flags more) := by
  have hlookup := Settings.lookup_updated flags more hmore
  have hunknown : unknown? (ofList cs).labelled (Settings.updated flags more)
      = (unknown? (ofList cs).labelled flags).or (unknown? (ofList cs).labelled more) :=
    Settings.find?_labels_updated flags more _
  rw [withOverrides_ofList cs flags hflags,
    withOverrides_ofList cs _ (Settings.nodup_labels_updated flags more hflags), hunknown]
  cases unknown? (ofList cs).labelled flags with
  | some label => rfl
  | none =>
      change (ofList ((ofList cs).labelled.map (·.flagged flags))).withOverrides more = _
      rw [withOverrides_ofList _ more hmore, labelled_flagged, unknown?_flagged, List.map_map]
      simp only [Function.comp_def, flagged_flagged _ _ _ hlookup, Option.none_or]

/-- A report of unknown labels is one of the first of them. -/
theorem withOverrides_eq_error_iff (hflags : (flags.map Prod.fst).Nodup) (f : Failure) :
    (ofList cs).withOverrides flags = .error f ↔
      ∃ label, unknown? (ofList cs).labelled flags = some label ∧
        f = .config (.unknownLabel label) := by
  rw [withOverrides_ofList cs flags hflags]
  cases unknown? (ofList cs).labelled flags with
  | none => simp only [reduceCtorEq, false_and, exists_false]
  | some label => simp only [Except.error.injEq, Option.some.injEq, exists_eq_left', eq_comm]

theorem byLabel?_of_overrides (hflags : (flags.map Prod.fst).Nodup) (r : Registry)
    (h : (ofList cs).withOverrides flags = .ok r) (label : String) :
    r.byLabel? label = ((ofList cs).byLabel? label).map fun c =>
      { c with enabled := (flags.lookup label).getD c.enabled } := by
  rw [withOverrides_ofList cs flags hflags] at h
  split at h
  · exact absurd h (by simp only [reduceCtorEq, not_false_eq_true])
  · rw [← Except.ok.inj h, byLabel?_flagged]

/-- What maps of flags do to the registry of any capabilities. Setting the flags of one map
    and then those of another makes the registry that the first map updated by the second
    makes, or ends with the same report. A report names the first label of the map that the
    registry does not know. Without one the order of the map does not matter. In the new
    registry every label has the mode that it had, with the flag that the map has for it or
    else its own, and resolves to it if that is set. -/
theorem overrides_composed (f g : List (String × Bool)) (hf : (f.map Prod.fst).Nodup)
    (hg : (g.map Prod.fst).Nodup) :
    ((ofList cs).withOverrides f >>= fun r => r.withOverrides g)
      = (ofList cs).withOverrides (Settings.updated f g) ∧
    (∀ fault, (ofList cs).withOverrides f = .error fault ↔ ∃ label,
      (f.map Prod.fst).find? (fun l => ((ofList cs).byLabel? l).isNone) = some label ∧
        fault = .config (.unknownLabel label)) ∧
    ((∀ x ∈ f, ((ofList cs).byLabel? x.1).isSome = true) → ∃ r, ∀ f', f.Perm f' →
      (ofList cs).withOverrides f' = .ok r) ∧
    ∀ r, (ofList cs).withOverrides f = .ok r → ∀ label,
      (r.byLabel? label = ((ofList cs).byLabel? label).map fun c =>
        { c with enabled := (f.lookup label).getD c.enabled }) ∧
      ∀ identifier opcodeText c, r.resolve label identifier opcodeText = .ok c ↔
        ∃ old, (ofList cs).byLabel? label = some old ∧
          (f.lookup label).getD old.enabled = true ∧ c = { old with enabled := true } := by
  refine ⟨withOverrides_updated cs f g hf hg, withOverrides_eq_error_iff cs f hf,
    fun hknown => ?_, fun r hr label => ?_⟩
  · rcases withOverrides_perm cs f f (List.Perm.refl f) hf hknown with ⟨r, hr, -⟩
    refine ⟨r, fun f' hperm => ?_⟩
    rcases withOverrides_perm cs f f' hperm hf hknown with ⟨r', hr', hsame⟩
    rw [hsame, ← hr', hr]
  · have hlabel := byLabel?_of_overrides cs f hf r hr label
    refine ⟨hlabel, fun identifier opcodeText c => ?_⟩
    rw [resolve_eq_ok_iff, enabledLabel?, hlabel, Option.filter_eq_some_iff,
      Option.map_eq_some_iff]
    constructor
    · rintro ⟨⟨old, hold, rfl⟩, henabled⟩
      refine ⟨old, hold, henabled, ?_⟩
      rw [show (f.lookup label).getD old.enabled = true from henabled]
    · rintro ⟨old, hold, henabled, rfl⟩
      exact ⟨⟨old, hold, by rw [henabled]⟩, rfl⟩

/-- A label that is in both maps, one that is in the second only, and one code for two modes. -/
theorem overrides_composed_twice :
    let r := ofList [⟨"A", "x", true⟩, ⟨"B", "x", false⟩, ⟨"C", "z", true⟩]
    let f := [("B", true), ("A", false)]
    let g := [("C", false), ("A", true)]
    (f.map Prod.fst).Nodup ∧ (g.map Prod.fst).Nodup ∧
      ((r.withOverrides f >>= fun r' => r'.withOverrides g)
        = r.withOverrides [("B", true), ("A", true), ("C", false)]) ∧
      ∀ r', r.withOverrides f = .ok r' →
        r'.resolve "B" "LDA" "A9" = .ok ⟨"B", "x", true⟩ := by
  intro r f g
  have hf : (f.map Prod.fst).Nodup := by decide
  have hg : (g.map Prod.fst).Nodup := by decide
  rcases overrides_composed _ f g hf hg with ⟨hcomposed, -, -, hmodes⟩
  exact ⟨hf, hg, hcomposed, fun r' hr' =>
    ((hmodes r' hr' "B").2 "LDA" "A9" _).mpr ⟨⟨"B", "x", false⟩, rfl, rfl, rfl⟩⟩

end Registry

end Addressing

end OpcodeForge
