import OpcodeForge.Proofs.Addressing.Variants

/-!
# What a Registry Answers

A registry is filled from a list of capabilities, in which labels and codes may come up more
than once. A label that comes up again keeps the place that it had and takes the new mode. So
two positions in the list count for each label: the first, for where its mode stands, and the
last, for which mode that is. For a code only the last one counts.

The answers of a registry are said here by the list alone. The last capability with a label
decides whether the label resolves, and those that resolve are listed by the places where
their labels come up first. The last capability with a code decides about the code, whatever
its label: a label may resolve to a mode whose code does not.

## Main definitions

* `IsLast`: The last capability in a list with a label, or with a code.
* `Follow`: Labels in the order of their first places in a list.

## Theorems

* `find?_reverse_eq_some_iff`: A search from the end finds the last one.
* `follow_setLabel`: One more capability leaves the order as it is, or comes last.
* `follow_labelled`: Modes stand in the order in which their labels come up.
* `enabledLabel?_ofList_iff`: Which mode a label resolves to.
* `byCode?_ofList_iff`: Which mode a code resolves to.
* `mem_enabled_ofList_iff`: What is listed is what labels resolve to.
* `queries_ofList`: All answers of the registry of a list.
-/

namespace OpcodeForge.Addressing

/-- The last capability in a list that has a key, which is its label or its code. -/
def IsLast (keyOf : Capability → String) (key : String) (cs : List Capability)
    (c : Capability) : Prop :=
  keyOf c = key ∧ ∃ before after, cs = before ++ c :: after ∧ ∀ d ∈ after, keyOf d ≠ key

/-- A search from the end finds the last one. -/
theorem find?_reverse_eq_some_iff (keyOf : Capability → String) (key : String)
    (cs : List Capability) (c : Capability) :
    cs.reverse.find? (keyOf · == key) = some c ↔ IsLast keyOf key cs c := by
  unfold IsLast
  rw [List.find?_eq_some_iff_append, beq_iff_eq]
  refine and_congr_right fun _ => ?_
  constructor
  · rintro ⟨after, before, hcs, hafter⟩
    refine ⟨before.reverse, after.reverse, ?_, fun d hd hkey => ?_⟩
    · rw [← List.reverse_reverse cs, hcs]
      simp only [List.reverse_append, List.reverse_cons, List.append_assoc,
        List.singleton_append]
    · have hother := hafter d (List.mem_reverse.mp hd)
      rw [hkey, beq_self_eq_true] at hother
      exact absurd hother (by decide)
  · rintro ⟨before, after, rfl, hafter⟩
    refine ⟨after.reverse, before.reverse, ?_, fun d hd => ?_⟩
    · simp only [List.reverse_append, List.reverse_cons, List.append_assoc,
        List.singleton_append]
    · rw [beq_eq_false_iff_ne.mpr (hafter d (List.mem_reverse.mp hd))]
      rfl

/-- The modes stand in the order in which their labels come up first in `labels`, and have
    all of these. -/
structure Follow (labels : List String) (modes : List Capability) : Prop where
  complete : ∀ label, label ∈ labels ↔ label ∈ modes.map (·.label)
  ordered : (modes.map (·.label)).Pairwise fun l l' => labels.idxOf l < labels.idxOf l'

theorem follow_nil : Follow [] [] :=
  ⟨fun _ => Iff.rfl, List.Pairwise.nil⟩

/-- One more capability leaves the order as it is if its label has come up before, and comes
    last if not. -/
theorem follow_setLabel (labels : List String) (modes : List Capability) (c : Capability)
    (h : Follow labels modes) : Follow (labels ++ [c.label]) (setLabel c modes) := by
  have hkept : ∀ l ∈ modes.map (·.label), (labels ++ [c.label]).idxOf l = labels.idxOf l :=
    fun l hl => List.idxOf_append_of_mem ((h.complete l).mpr hl)
  have hordered : (modes.map (·.label)).Pairwise fun l l' =>
      (labels ++ [c.label]).idxOf l < (labels ++ [c.label]).idxOf l' := by
    refine h.ordered.imp_of_mem fun hl hl' hlt => ?_
    rw [hkept _ hl, hkept _ hl']
    exact hlt
  by_cases hmem : c.label ∈ modes.map (·.label)
  · constructor
    · intro label
      rw [labels_setLabel_of_mem c modes hmem, ← h.complete, List.mem_append,
        List.mem_singleton, or_iff_left_of_imp]
      rintro rfl
      exact (h.complete _).mpr hmem
    · rw [labels_setLabel_of_mem c modes hmem]
      exact hordered
  · have hnew : c.label ∉ labels := fun hold => hmem ((h.complete _).mp hold)
    rw [setLabel_of_new c modes hmem]
    constructor
    · intro label
      rw [List.map_append, List.mem_append, List.mem_append, h.complete]
      rfl
    · rw [List.map_append, List.pairwise_append]
      refine ⟨hordered, List.pairwise_singleton _ _, fun l hl l' hl' => ?_⟩
      -- All labels so far came up before the end of the list.
      rw [List.mem_singleton.mp hl', hkept l hl, List.idxOf_append_of_notMem hnew]
      exact Nat.lt_of_lt_of_le (List.idxOf_lt_length_iff.mpr ((h.complete l).mpr hl))
        (Nat.le_add_right _ _)

namespace Registry

/-- The modes of a registry stand in the order in which their labels come up. -/
theorem follow_labelled (cs : List Capability) :
    Follow (cs.map (·.label)) (ofList cs).labelled := by
  have hfold : ∀ labels modes, Follow labels modes →
      Follow (labels ++ cs.map (·.label)) (cs.foldl (fun acc c => setLabel c acc) modes) := by
    induction cs with
    | nil =>
        intro labels modes h
        rw [List.map_nil, List.append_nil]
        exact h
    | cons c rest ih =>
        intro labels modes h
        rw [List.map_cons, List.append_cons]
        exact ih _ _ (follow_setLabel labels modes c h)
  exact hfold [] [] follow_nil

/-- A label resolves to the last capability with it, if that is enabled. -/
theorem enabledLabel?_ofList_iff (cs : List Capability) (label : String) (c : Capability) :
    (ofList cs).enabledLabel? label = some c ↔
      IsLast (·.label) label cs c ∧ c.enabled = true := by
  unfold enabledLabel?
  rw [byLabel?_ofList, Option.filter_eq_some_iff, find?_reverse_eq_some_iff]

/-- A code resolves to the last capability with it, if that is enabled. -/
theorem byCode?_ofList_iff (cs : List Capability) (code : String) (c : Capability) :
    (ofList cs).byCode? code = some c ↔
      IsLast (·.code) code cs c ∧ c.enabled = true := by
  unfold byCode?
  rw [Option.filter_eq_some_iff, ← find?_reverse_eq_some_iff]
  rfl

theorem resolve_eq_ok_iff (r : Registry) (label identifier opcodeText : String)
    (c : Capability) : r.resolve label identifier opcodeText = .ok c ↔
      r.enabledLabel? label = some c := by
  unfold resolve
  cases r.enabledLabel? label with
  | none => simp only [reduceCtorEq]
  | some c' => simp only [Except.ok.injEq, Option.some.injEq]

theorem resolve_eq_error_iff (r : Registry) (label identifier opcodeText : String)
    (f : Failure) : r.resolve label identifier opcodeText = .error f ↔
      f = .unsupportedMode identifier label opcodeText ∧ r.enabledLabel? label = none := by
  unfold resolve
  cases r.enabledLabel? label with
  | none => simp only [Except.error.injEq, and_true, eq_comm]
  | some c => simp only [reduceCtorEq, and_false]

/-- What is listed as enabled is what labels resolve to. -/
theorem mem_enabled_ofList_iff (cs : List Capability) (c : Capability) :
    c ∈ (ofList cs).enabled ↔ ∃ label, (ofList cs).enabledLabel? label = some c := by
  unfold enabled
  simp only [List.mem_filter, enabledLabel?_eq_some_iff_of_nodup _ (nodup_labels_ofList cs)]
  constructor
  · rintro ⟨hmem, henabled⟩
    exact ⟨c.label, hmem, rfl, henabled⟩
  · rintro ⟨_, hmem, _, henabled⟩
    exact ⟨hmem, henabled⟩

/-- All answers of the registry of a list of capabilities. A label resolves exactly if the
    last capability with it is enabled, and to that one; otherwise there is a report with the
    label, the instruction and the opcode. The registry contains the labels that resolve. It
    lists as enabled what labels resolve to, in the order in which the labels come up first,
    so each of them once. A code gives the last capability with it if that is enabled, and
    nothing otherwise. -/
theorem queries_ofList (cs : List Capability) :
    (∀ label identifier opcodeText c,
      (ofList cs).resolve label identifier opcodeText = .ok c ↔
        IsLast (·.label) label cs c ∧ c.enabled = true) ∧
    (∀ label identifier opcodeText f,
      (ofList cs).resolve label identifier opcodeText = .error f ↔
        f = .unsupportedMode identifier label opcodeText ∧
          ¬∃ c, IsLast (·.label) label cs c ∧ c.enabled = true) ∧
    (∀ label identifier opcodeText, (ofList cs).contains label = true ↔
      ∃ c, (ofList cs).resolve label identifier opcodeText = .ok c) ∧
    (∀ c identifier opcodeText, c ∈ (ofList cs).enabled ↔
      ∃ label, (ofList cs).resolve label identifier opcodeText = .ok c) ∧
    ((ofList cs).enabled.Pairwise fun c d =>
      (cs.map (·.label)).idxOf c.label < (cs.map (·.label)).idxOf d.label) ∧
    (∀ code c, (ofList cs).byCode? code = some c ↔
      IsLast (·.code) code cs c ∧ c.enabled = true) ∧
    ∀ code, (ofList cs).byCode? code = none ↔
      ¬∃ c, IsLast (·.code) code cs c ∧ c.enabled = true := by
  simp only [resolve_eq_ok_iff, resolve_eq_error_iff, ← enabledLabel?_ofList_iff,
    ← byCode?_ofList_iff, mem_enabled_ofList_iff, Option.eq_none_iff_forall_ne_some, not_exists,
    ne_eq, implies_true, true_and, and_true]
  refine ⟨fun label _ _ => Option.isSome_iff_exists, ?_⟩
  exact (List.pairwise_map.mp (follow_labelled cs).ordered).filter _

-- The label of the second mode resolves, but its code has come up again in a mode that is off. The
-- code of the first mode has not come up again, although its label has.
example :
    let r := ofList [⟨"A", "x", true⟩, ⟨"B", "y", true⟩, ⟨"A", "y", false⟩]
    r.enabled = [⟨"B", "y", true⟩] ∧ r.byCode? "y" = none ∧ r.byCode? "x" = some ⟨"A", "x", true⟩ :=
  ⟨by decide, by decide, by decide⟩

end Registry

end OpcodeForge.Addressing
