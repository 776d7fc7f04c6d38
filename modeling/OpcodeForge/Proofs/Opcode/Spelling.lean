import OpcodeForge.Proofs.Opcode.Calls
import OpcodeForge.Proofs.Opcode.Columns
import OpcodeForge.Proofs.Opcode.Order

/-!
# How Rows Are Spelled

How a row says what it says is not seen any more once it has been read: the case of the digits,
the blanks around the cycles, the other columns. And of what it says, whether crossing a page
costs more is for the table only. So two runs whose rows say the same, but for crossing pages,
make the same outputs.

Runs are compared by what is left of an entry without its mark (`Entry.unmarked`). Everything
from the slots to the two texts looks at that alone, each step for a reason of its own: slots
and faults depend on opcodes, sorting on opcodes and keys, placeholders on names, and arms on
everything but the mark. No step has to be carried out for both runs side by side.

## Main definitions

* `Respelled`: An instruction whose rows say the same, but for crossing pages.
* `Entry.unmarked`: An entry without the mark for crossing pages.
* `declared?`: The unmarked entry that a row declares.

## Theorems

* `hasReadableCycles_of_said`: A number that was read is not too long.
* `declared?_of_said`: What a row declares is what it says, if its label is enabled.
* `map_declared?_rowsOf`: Respelled rows declare the same, in the same order.
* `map_entriesAt`, `map_firstDeclared?`: The slots are a matter of unmarked entries.
* `entries_of_holds_declared?`: Runs with the same unmarked declarations end with the same
  unmarked entries.
* `placeholders_unmarked`, `dispatch_unmarked`: The outputs do not look at the mark.
* `build_respelled`: What another spelling does to a whole run.
-/

namespace OpcodeForge

open Addressing (Registry)
open Specification (Instruction)

namespace Opcode

/-- An instruction whose rows say the same, but for crossing pages. An instruction without a
    table has no rows. -/
structure Respelled (i j : Instruction) : Prop where
  identifier : j.identifier = i.identifier
  implementation : j.implementation = i.implementation
  additionalCodes : j.additionalCodes = i.additionalCodes
  rows : List.Forall₂ (Row.SaysAlike i.identifier) (i.rows.getD []) (j.rows.getD [])

/-- An entry without the mark for crossing pages. -/
def Entry.unmarked (e : Entry) : Entry :=
  { e with pageCross := false }

/-- The unmarked entry that a row declares, if it declares one. -/
def declared? (registry : Registry) (x : Instruction × Row) : Option Entry :=
  (declaration registry x.1 x.2).toOption.map Entry.unmarked

/-- The unmarked entry of a mode for what a row says. -/
def Entry.ofSaid (i : Instruction) (label : String) (opcode cycles : Nat)
    (mode : Addressing.Capability) : Entry where
  opcode := opcode
  mode := mode.code
  instruction := i.identifier
  cycles := .count cycles
  pageCross := false
  additionalCodes := i.additionalCodes
  source := i.identifier ++ " (" ++ label ++ ")"

theorem hasReadableCycles_of_said (identifier : String) (r : Row) (label : String)
    (opcode cycles : Nat) (crosses : Bool)
    (h : r.Says identifier label opcode cycles crosses) : r.HasReadableCycles := by
  intro s hs field hfield
  have hcycles := h.cycles
  unfold Row.cycles Row.cyclesText Row.cell at hcycles
  rw [Option.mem_def] at hs hfield
  simp only [hs, Except.map, bind, Except.bind, String.toList_ofList, hfield] at hcycles
  split at hcycles
  · cases hcycles
  · rename_i hlen
    exact Nat.le_of_not_lt hlen

/-- Reading a row column by column gives what it says, unless its label is not enabled. -/
theorem entryOf_of_said (registry : Registry) (i : Instruction) (r : Row) (label : String)
    (opcode cycles : Nat) (crosses : Bool)
    (h : r.Says i.identifier label opcode cycles crosses) :
    ((Builder.entryOf registry i r).toOption).map Entry.unmarked
      = (registry.enabledLabel? label).map (Entry.ofSaid i label opcode cycles) := by
  -- The cell of the opcode is there, since the opcode was read from it.
  have htext : ∃ s, r.opcodeText = .ok s := by
    have hopcode := h.opcode
    unfold Row.opcode at hopcode
    unfold Row.opcodeText
    cases hcell : r.cell 2 with
    | error x => simp only [hcell, bind, Except.bind, reduceCtorEq] at hopcode
    | ok s => exact ⟨_, rfl⟩
  rcases htext with ⟨s, htext⟩
  unfold Builder.entryOf
  simp only [h.shape, h.label, htext, h.opcode, h.cycles, h.crosses, bind, Except.bind, pure,
    Except.pure, Registry.resolve]
  cases registry.enabledLabel? label <;> rfl

theorem declared?_of_said (registry : Registry) (i : Instruction) (r : Row) (label : String)
    (opcode cycles : Nat) (crosses : Bool)
    (h : r.Says i.identifier label opcode cycles crosses) :
    declared? registry (i, r)
      = (registry.enabledLabel? label).map (Entry.ofSaid i label opcode cycles) := by
  have hread := hasReadableCycles_of_said i.identifier r label opcode cycles crosses h
  rw [← entryOf_of_said registry i r label opcode cycles crosses h,
    entryOf_eq registry i r fun hlong => hlong.2 hread]
  unfold declared?
  cases declaration registry i r <;> rfl

/-- Of an instruction only its name and its further code count for what a row says. -/
theorem ofSaid_congr (i j : Instruction) (h : Respelled i j) :
    Entry.ofSaid j = Entry.ofSaid i := by
  unfold Entry.ofSaid
  rw [h.identifier, h.additionalCodes]

/-- Rows that say the same declare the same, in the same order. -/
theorem map_declared?_of_saysAlike (registry : Registry) (i j : Instruction)
    (h : Respelled i j) (rows rows' : List Row)
    (hrows : List.Forall₂ (Row.SaysAlike i.identifier) rows rows') :
    rows.map (fun r => declared? registry (i, r))
      = rows'.map fun r => declared? registry (j, r) := by
  induction hrows with
  | nil => rfl
  | cons hr _ ih =>
      rcases hr with ⟨label, opcode, cycles, crosses, crosses', hi, hj⟩
      rw [← h.identifier] at hj
      rw [List.map_cons, List.map_cons, ih, declared?_of_said registry i _ _ _ _ _ hi,
        declared?_of_said registry j _ _ _ _ _ hj, ofSaid_congr i j h]

/-- Respelled instructions declare the same, in the same order. -/
theorem map_declared?_rowsOf (registry : Registry) (is js : List Instruction)
    (h : List.Forall₂ Respelled is js) :
    (rowsOf is).map (declared? registry) = (rowsOf js).map (declared? registry) := by
  induction h with
  | nil => rfl
  | @cons i j is js hij _ ih =>
      have hcons : ∀ (k : Instruction) (rest : List Instruction),
          rowsOf (k :: rest) = (k.rows.getD []).map (k, ·) ++ rowsOf rest := fun _ _ => rfl
      rw [hcons, hcons, List.map_append, List.map_append, ih, List.map_map, List.map_map]
      exact congrArg (· ++ _) (map_declared?_of_saysAlike registry i j hij _ _ hij.rows)

theorem map_entriesAt (registry : Registry) (b : Int) (rows : List (Instruction × Row)) :
    (entriesAt registry b rows).map Entry.unmarked
      = (rows.map (declared? registry)).filterMap (·.filter (·.opcode == b)) := by
  unfold entriesAt
  rw [List.map_filterMap, List.filterMap_map]
  refine List.filterMap_congr fun x _ => ?_
  unfold entryAt? declared?
  simp only [Function.comp_apply]
  cases (declaration registry x.1 x.2).toOption with
  | none => rfl
  | some e =>
      simp only [Option.map_some, Option.filter_some]
      cases hb : e.opcode == b <;> simp [Entry.unmarked, hb]

theorem map_firstDeclared? (registry : Registry) (b : Int) (xs ys : List (Instruction × Row))
    (h : xs.map (declared? registry) = ys.map (declared? registry)) :
    (firstDeclared? registry b xs).map Entry.unmarked
      = (firstDeclared? registry b ys).map Entry.unmarked := by
  unfold firstDeclared?
  rw [← List.head?_map, ← List.head?_map, map_entriesAt, map_entriesAt, h]

/-- As many rows are at fault, since the same bytes are declared by as many rows. -/
theorem length_rowFailures_of_declared? (registry : Registry)
    (xs ys : List (Instruction × Row))
    (h : xs.map (declared? registry) = ys.map (declared? registry)) :
    (rowFailures registry [] xs).length = (rowFailures registry [] ys).length := by
  -- A row is at fault unless it is the first to declare a byte, so counting bytes counts faults.
  have hbytes : declaredBytes registry xs = declaredBytes registry ys := by
    ext k
    have hfirst := congrArg Option.isSome (map_firstDeclared? registry k.val xs ys h)
    rw [Option.isSome_map, Option.isSome_map] at hfirst
    rw [mem_declaredBytes, mem_declaredBytes, hfirst]
  have hlen : xs.length = ys.length := by
    have hmap := congrArg List.length h
    rwa [List.length_map, List.length_map] at hmap
  have hx := length_rowFailures registry xs
  have hy := length_rowFailures registry ys
  rw [hbytes] at hx
  omega

/-- Two runs from one builder that have seen the same unmarked declarations have equally many
    faults, and their slots differ in marks only. -/
theorem entries_of_holds_declared? (start b b' : Builder) (xs ys : List (Instruction × Row))
    (hb : Holds start xs b) (hb' : Holds start ys b')
    (h : xs.map (declared? start.registry) = ys.map (declared? start.registry)) :
    b.failures.length = b'.failures.length ∧
      b.entries.map Entry.unmarked = b'.entries.map Entry.unmarked := by
  constructor
  · rw [hb.failures, hb'.failures, List.length_append, List.length_append,
      length_rowFailures_of_declared? start.registry xs ys h]
  · rw [b.entries_eq, b'.entries_eq, List.map_filterMap, List.map_filterMap]
    refine List.filterMap_congr fun k _ => ?_
    have hfirst := map_firstDeclared? start.registry k.val xs ys h
    rw [hb.slots k, hb'.slots k, Option.map_or, Option.map_or, hfirst]

/-- Sorting looks at opcodes. -/
theorem map_entries_ofList (es : List Entry) :
    (Table.ofList es).entries.map Entry.unmarked
      = (es.map Entry.unmarked).mergeSort Entry.notAfter :=
  List.map_mergeSort fun _ _ _ _ => rfl

theorem undefinedNames_unmarked (defined : List String) (es : List Entry) :
    ∀ found, Table.undefinedNames defined found (es.map Entry.unmarked)
      = Table.undefinedNames defined found es := by
  induction es with
  | nil => exact fun _ => rfl
  | cons e rest ih =>
      intro found
      simp only [List.map_cons, Table.undefinedNames, ih]
      rfl

/-- Which empty bodies a table asks for does not depend on its marks. -/
theorem placeholders_unmarked (t t' : Table) (defined : List String)
    (h : t.entries.map Entry.unmarked = t'.entries.map Entry.unmarked) :
    t.placeholders defined = t'.placeholders defined := by
  unfold Table.placeholders
  rw [← undefinedNames_unmarked _ t.entries, h, undefinedNames_unmarked]

end Opcode

namespace Rendering

open Opcode (Entry Table)

theorem checkKeys_unmarked (es : List Entry) :
    checkKeys (es.map Entry.unmarked) = checkKeys es := by
  induction es with
  | nil => rfl
  | cons e rest ih =>
      rw [List.map_cons, checkKeys, checkKeys, ih]
      rfl

theorem byKey_unmarked (es : List Entry) :
    (byKey es).map Entry.unmarked = byKey (es.map Entry.unmarked) :=
  List.map_mergeSort fun _ _ _ _ => rfl

/-- No arm shows the mark of its entry. -/
theorem dispatch_unmarked (registry : Registry) (t : Table) :
    dispatch registry ⟨t.entries.map Entry.unmarked⟩ = dispatch registry t := by
  have harms : (byKey (t.entries.map Entry.unmarked)).mapM (arm registry)
      = (byKey t.entries).mapM (arm registry) := by
    rw [← byKey_unmarked, List.mapM_map]
    rfl
  unfold dispatch
  rw [checkKeys_unmarked, harms]

end Rendering

namespace Opcode

/-- An entry that is no default was declared by a row, and its mark is the plus of the row. -/
theorem exists_row_of_holds (start b : Builder) (is : List Instruction)
    (hstart : ∀ k e, start.get? k = some e → e.isDefault = true)
    (h : Holds start (rowsOf is) b) (e : Entry) (he : e ∈ b.entries)
    (hdeclared : e.isDefault = false) :
    ∃ x ∈ rowsOf is, Declares start.registry x.1 x.2 e ∧ x.2.pageCross = .ok e.pageCross := by
  rcases (b.mem_entries_iff e).mp he with ⟨k, hk⟩
  rw [h.slots k, Option.or_eq_some_iff] at hk
  rcases hk with hfirst | ⟨_, hdefault⟩
  · rcases declares_of_firstDeclared? start.registry k.val _ e hfirst with ⟨_, x, hx, hdec⟩
    refine ⟨x, hx, hdec, ?_⟩
    rcases x with ⟨i, r⟩
    cases hdec with
    | columns label form opcode bytes cycles rest mode n digits plus hmode hopcode hcycles =>
        have hlast := Row.getLast?_of_cyclesOf? _ digits plus hcycles
        change Except.ok ((String.ofList (Text.trim cycles.toList)).toList.getLast? == some '+')
          = Except.ok plus
        rw [String.toList_ofList, hlast]
  · rw [hstart k e hdefault] at hdeclared
    exact absurd hdeclared (by decide)

/-- A builder that was seeded at all was seeded with a default for every byte. -/
theorem length_of_fresh (registry : Registry) (reference : Option (List ReferenceRow))
    (start : Builder) (h : Builder.fresh registry reference = .ok start) :
    ∀ rows ∈ reference, rows.length = opcodeSpace := by
  intro rows hrows
  rw [Option.mem_def] at hrows
  rw [hrows] at h
  unfold Builder.fresh at h
  cases hseed : (Builder.empty registry).seed rows with
  | error f =>
      simp only [hseed] at h
      exact absurd h (by simp only [Except.map, reduceCtorEq, not_false_eq_true])
  | ok seeded => exact ((Builder.seed_eq_ok_iff _ rows seeded).mp hseed).1

/-- Rows that say something have cycles that can be read. -/
theorem hasReadableCycles_of_saysAlike (identifier : String) (rows rows' : List Row)
    (h : List.Forall₂ (Row.SaysAlike identifier) rows rows') :
    (∀ r ∈ rows, r.HasReadableCycles) ∧ ∀ r ∈ rows', r.HasReadableCycles := by
  induction h with
  | nil => simp
  | cons hr _ ih =>
      rcases hr with ⟨label, opcode, cycles, crosses, crosses', hi, hj⟩
      rw [List.forall_mem_cons, List.forall_mem_cons]
      exact ⟨⟨hasReadableCycles_of_said _ _ _ _ _ _ hi, ih.1⟩,
        ⟨hasReadableCycles_of_said _ _ _ _ _ _ hj, ih.2⟩⟩

theorem hasReadableCycles_of_respelled (is js : List Instruction)
    (h : List.Forall₂ Respelled is js) :
    (∀ x ∈ rowsOf is, x.2.HasReadableCycles) ∧ ∀ x ∈ rowsOf js, x.2.HasReadableCycles := by
  induction h with
  | nil => exact ⟨fun x hx => absurd hx List.not_mem_nil, fun x hx => absurd hx List.not_mem_nil⟩
  | @cons i j is js hij _ ih =>
      have hone := hasReadableCycles_of_saysAlike i.identifier _ _ hij.rows
      have hcons : ∀ (k : Instruction) (rest : List Instruction),
          (∀ r ∈ k.rows.getD [], r.HasReadableCycles) →
          (∀ x ∈ rowsOf rest, x.2.HasReadableCycles) →
          ∀ x ∈ rowsOf (k :: rest), x.2.HasReadableCycles := by
        intro k rest hk hrest x hx
        rcases List.mem_append.mp hx with hx | hx
        · rcases List.mem_map.mp hx with ⟨r, hr, rfl⟩
          exact hk r hr
        · exact hrest x hx
      exact ⟨hcons i is hone.1 ih.1, hcons j js hone.2 ih.2⟩

/-- What is read off an instruction without its rows is the same when they are respelled. -/
theorem map_of_respelled {α : Type} (f : Instruction → α)
    (hf : ∀ i j, Respelled i j → f j = f i) (is js : List Instruction)
    (h : List.Forall₂ Respelled is js) : is.map f = js.map f := by
  induction h with
  | nil => rfl
  | cons hij _ ih => rw [List.map_cons, List.map_cons, hf _ _ hij, ih]

theorem bodyOf_of_respelled (i j : Instruction) (h : Respelled i j) : bodyOf j = bodyOf i := by
  unfold bodyOf Instruction.macroName
  rw [h.identifier, h.implementation]

/-- Only what rows say reaches the outputs of a run, and not even all of that. If the rows of
    two lists of instructions say the same, but for crossing pages, then both runs find equally
    many faults. If there are none then their outputs are the same, and their tables differ in
    the marks only. The mark of an entry is the plus of the row that declares it. -/
theorem build_respelled (registry : Registry) (reference : Option (List ReferenceRow))
    (is js : List Instruction) (start : Builder)
    (hfresh : Builder.fresh registry reference = .ok start)
    (h : List.Forall₂ Respelled is js) :
    ∃ b b' log log', Generator.addAll start is = (b, log, .ok ()) ∧
      Generator.addAll start js = (b', log', .ok ()) ∧
      b.failures.length = b'.failures.length ∧
      ((∃ t, b.build = .ok t) ↔ ∃ t, b'.build = .ok t) ∧
      ∀ t t', b.build = .ok t → b'.build = .ok t' →
        Rendering.bodies is (t.placeholders (is.map (·.identifier)))
          = Rendering.bodies js (t'.placeholders (js.map (·.identifier))) ∧
        Rendering.dispatch registry t = Rendering.dispatch registry t' ∧
        t.entries.map Entry.unmarked = t'.entries.map Entry.unmarked ∧
        (∀ e ∈ t.entries, e.isDefault = false → ∃ x ∈ rowsOf is,
          Declares registry x.1 x.2 e ∧ x.2.pageCross = .ok e.pageCross) ∧
        ∀ e ∈ t'.entries, e.isDefault = false → ∃ x ∈ rowsOf js,
          Declares registry x.1 x.2 e ∧ x.2.pageCross = .ok e.pageCross := by
  have hlen := length_of_fresh registry reference start hfresh
  rcases hasReadableCycles_of_respelled is js h with ⟨hread, hread'⟩
  rcases holds_fresh registry reference is hlen hread with
    ⟨start₁, b, log, hfresh₁, hrun, hreg, hslots, _, hb⟩
  rcases holds_fresh registry reference js hlen hread' with
    ⟨start₂, b', log', hfresh₂, hrun', _, _, _, hb'⟩
  rw [← Except.ok.inj (hfresh.symm.trans hfresh₁)] at hrun hreg hslots hb
  rw [← Except.ok.inj (hfresh.symm.trans hfresh₂)] at hrun' hb'
  have hdefaults : ∀ k e, start.get? k = some e → e.isDefault = true := by
    intro k e he
    rw [hslots k] at he
    exact isDefault_of_default? registry _ k e he
  rcases entries_of_holds_declared? start b b' _ _ hb hb'
    (map_declared?_rowsOf start.registry is js h) with ⟨hcount, hentries⟩
  have hnil : b.failures = [] ↔ b'.failures = [] := by
    rw [← List.length_eq_zero_iff, ← List.length_eq_zero_iff, hcount]
  refine ⟨b, b', log, log', hrun, hrun', hcount, ?_, ?_⟩
  · simp only [Builder.build_eq_ok_iff, hnil, exists_and_left, exists_eq']
  · intro t t' ht ht'
    have htb := ((Builder.build_eq_ok_iff b t).mp ht).2
    have htb' := ((Builder.build_eq_ok_iff b' t').mp ht').2
    have hunmarked : t.entries.map Entry.unmarked = t'.entries.map Entry.unmarked := by
      rw [← htb, ← htb', map_entries_ofList, map_entries_ofList, hentries]
    have hnames : t.placeholders (is.map (·.identifier))
        = t'.placeholders (js.map (·.identifier)) := by
      rw [placeholders_unmarked t t' _ hunmarked,
        map_of_respelled (·.identifier) (fun _ _ hij => hij.identifier) is js h]
    refine ⟨?_, ?_, hunmarked, ?_, ?_⟩
    · rw [bodies_eq, bodies_eq, hnames, map_of_respelled bodyOf bodyOf_of_respelled is js h]
    · rw [← Rendering.dispatch_unmarked registry t, hunmarked, Rendering.dispatch_unmarked]
    · intro e he
      rw [← htb] at he
      rw [← hreg]
      exact exists_row_of_holds start b is hdefaults hb e ((Table.perm_ofList _).mem_iff.mp he)
    · intro e he
      rw [← htb'] at he
      rw [← hreg]
      exact exists_row_of_holds start b' js hdefaults hb' e
        ((Table.perm_ofList _).mem_iff.mp he)

/-- The instructions of `loads` in another spelling. One plus has come and one has gone. -/
def loadsRespelled : List Instruction := [
  ⟨"LDA", "a", some [⟨["Immediate", "LDA #", "$a9", "two", " 2 + ", "x"]⟩,
    ⟨["Absolute,X", "LDA a,X", "$bD", "", "4\t"]⟩], ""⟩,
  ⟨"LDX", "x", some [⟨["Immediate", "LDX #", "$A2", "2", "2"]⟩], ""⟩]

theorem respelled_loads : List.Forall₂ Respelled loads loadsRespelled := by
  have hnumeral : ∀ c, Text.isDigit c = true → IsNumeral [c] := fun c hc =>
    ⟨List.cons_ne_nil c [], List.forall_mem_singleton.mpr hc⟩
  have hnone : ∀ c ∈ ([] : List Char), Text.isBlank c = true := List.forall_mem_nil _
  have hspace : ∀ c ∈ [' '], Text.isBlank c = true := List.forall_mem_singleton.mpr (by decide)
  have htab : ∀ c ∈ ['\t'], Text.isBlank c = true := List.forall_mem_singleton.mpr (by decide)
  have himmediate : Row.SaysAlike "LDA" ⟨["Immediate", "", "$A9", "2", "2"]⟩
      ⟨["Immediate", "LDA #", "$a9", "two", " 2 + ", "x"]⟩ :=
    saysAlike_of_columns "LDA" _ _ _ _ _ _ _ _ _ [] ["x"] 0xA9 ['2'] false true (by decide)
      (by decide) (hnumeral '2' (by decide)) (by decide) (.plain [] [] hnone hnone)
      (.plus [' '] [' '] [' '] hspace hspace hspace)
  have habsolute : Row.SaysAlike "LDA" ⟨["Absolute,X", "", "$BD", "3", "4+"]⟩
      ⟨["Absolute,X", "LDA a,X", "$bD", "", "4\t"]⟩ :=
    saysAlike_of_columns "LDA" _ _ _ _ _ _ _ _ _ [] [] 0xBD ['4'] true false (by decide)
      (by decide) (hnumeral '4' (by decide)) (by decide) (.plus [] [] [] hnone hnone hnone)
      (.plain [] ['\t'] hnone htab)
  have hindexed : Row.SaysAlike "LDX" ⟨["Immediate", "", "$A2", "2", "2"]⟩
      ⟨["Immediate", "LDX #", "$A2", "2", "2"]⟩ :=
    saysAlike_of_columns "LDX" _ _ _ _ _ _ _ _ _ [] [] 0xA2 ['2'] false false (by decide)
      (by decide) (hnumeral '2' (by decide)) (by decide) (.plain [] [] hnone hnone)
      (.plain [] [] hnone hnone)
  exact .cons ⟨rfl, rfl, rfl, .cons himmediate (.cons habsolute .nil)⟩
    (.cons ⟨rfl, rfl, rfl, .cons hindexed .nil⟩ .nil)

set_option maxRecDepth 4000 in
/-- Both spellings build tables over the defaults, with the same outputs. -/
theorem build_respelled_loads :
    let reference := List.replicate opcodeSpace ⟨"imp", "NOP", .count 2⟩
    List.Forall₂ Respelled loads loadsRespelled ∧
      ∃ start b b' log log' t t',
        Builder.fresh Registry.default (some reference) = .ok start ∧
        Generator.addAll start loads = (b, log, .ok ()) ∧
        Generator.addAll start loadsRespelled = (b', log', .ok ()) ∧
        b.build = .ok t ∧ b'.build = .ok t' ∧
        Rendering.bodies loads (t.placeholders (loads.map (·.identifier)))
          = Rendering.bodies loadsRespelled
            (t'.placeholders (loadsRespelled.map (·.identifier))) ∧
        Rendering.dispatch Registry.default t = Rendering.dispatch Registry.default t' := by
  intro reference
  rcases holds_fresh Registry.default (some reference) loads
    (fun rows hrows => Option.some.inj hrows ▸ List.length_replicate) (by decide) with
    ⟨start, b₀, log₀, hfresh, hrun₀, hreg, _, hfail, h⟩
  rcases build_respelled Registry.default (some reference) loads loadsRespelled start hfresh
    respelled_loads with ⟨b, b', log, log', hrun, hrun', _, hbuild, hsame⟩
  rw [hrun, Prod.mk.injEq] at hrun₀
  have hnone : b.failures = [] := by
    rw [hrun₀.1, h.failures, hfail, hreg]
    rfl
  have ht := (Builder.build_eq_ok_iff b (.ofList b.entries)).mpr ⟨hnone, rfl⟩
  rcases hbuild.mp ⟨_, ht⟩ with ⟨t', ht'⟩
  rcases hsame _ t' ht ht' with ⟨hbodies, hdispatch, _⟩
  exact ⟨respelled_loads, start, b, b', log, log', _, t', hfresh, hrun, hrun', ht, ht', hbodies,
    hdispatch⟩

end Opcode

end OpcodeForge
