import OpcodeForge.Proofs.Generation
import OpcodeForge.Proofs.Number.Decimal
import OpcodeForge.Proofs.Opcode.ReferenceFile
import OpcodeForge.Proofs.Opcode.ReferenceText
import OpcodeForge.Proofs.Specification.Listing

/-!
# Printed Cycles

The cycles of an arm come from a row of a document or from a reference. A row has digits only, so
it says a number. A reference that is read from a file can say more: its reader takes every integer
and keeps truth values, and from there on nobody looks at them until they are written. So the
cycles of an arm are a number in decimal digits unless the arm is that of a placeholder for which
the file has something else.

What the file has counts only for the placeholders that still stand. Where a row declares the byte,
or the name of the row in the file is that of a real instruction, the cycles in the file are read
and never written.

## Main definitions

* `Opcode.IsCount`: A value that stands for a natural number as cycles.
* `Opcode.cyclesInFile?`: The value that a reference file has for the cycles of a byte.
* `Opcode.Entry.PrintsNumber`: The cycles of an entry are written as a natural number.

## Theorems

* `cycles_eq_natural_iff`: The values that stand for a natural number.
* `cyclesInFile?_of_loadReference`: The cycles of a reference are those that its file has.
* `printsNumber_of_declares`: What a row declares is a number.
* `generate_prints_numbers_iff`: When all arms of a run have a number for their cycles.
-/

namespace OpcodeForge

open Addressing (Registry defaultCapabilities)
open Opcode
open Specification
open Settings (readValue)

namespace Opcode

/-- A value that stands for a natural number as cycles: the number itself, or a text that denotes
    it. -/
inductive IsCount (n : Nat) : Value → Prop
  | number : IsCount n (.int n)
  | text (s : String) (h : integerOf? s = some (n : Int)) : IsCount n (.text s)

theorem cycles_eq_natural_iff (v : Value) (n : Nat) :
    Cycles.ofValue v = .ok (.count n) ↔ IsCount n v := by
  constructor
  · intro h
    cases v with
    | int i =>
        rw [Cycles.ofValue, Except.ok.injEq, Cycles.count.injEq] at h
        rw [h]
        exact .number
    | text s =>
        rw [cycles_text] at h
        cases hs : integerOf? s with
        | none => simp only [hs, reduceCtorEq] at h
        | some i =>
            simp only [hs, Except.ok.injEq, Cycles.count.injEq] at h
            exact .text s (h ▸ hs)
    | _ => simp only [Cycles.ofValue, Except.ok.injEq, reduceCtorEq] at h
  · intro h
    cases h with
    | number => rfl
    | text s hs => rw [cycles_text, hs]

/-- The value that a reference file has for the cycles of a byte. -/
def cyclesInFile? (d : Disk) (path : Value) (k : Nat) : Option Value := do
  let v ← (readValue .referenceUnreadable d path).toOption
  let items ← itemsOf? v
  let parts ← rowParts? (← items[k]?)
  some parts.2.2

theorem cycles_of_row (index : Nat) (v : Value) (r : ReferenceRow)
    (h : ReferenceRow.ofValue index v = .ok r) :
    ∃ parts, rowParts? v = some parts ∧ Cycles.ofValue parts.2.2 = .ok r.cycles := by
  rw [ofValue_eq] at h
  cases hparts : rowParts? v with
  | none => simp only [hparts, reduceCtorEq] at h
  | some parts =>
      simp only [hparts, ReferenceRow.ofParts] at h
      split at h
      · rcases exists_of_bind_eq_ok h with ⟨count, hcount, hrow⟩
        rw [← Except.ok.inj hrow]
        exact ⟨parts, rfl, hcount⟩
      · cases h

/-- Each row comes from the item in its place. -/
theorem exists_item_of_rowsFrom (items : List Value) : ∀ index rows,
    rowsFrom index items = .ok rows → ∀ k r, rows[k]? = some r →
      ∃ v, items[k]? = some v ∧ ReferenceRow.ofValue (index + k) v = .ok r := by
  induction items with
  | nil =>
      intro index rows h k r hr
      rw [← Except.ok.inj h, List.getElem?_nil] at hr
      cases hr
  | cons v items ih =>
      intro index rows h k r hr
      rcases exists_of_bind_eq_ok h with ⟨first, hfirst, h⟩
      rcases exists_of_bind_eq_ok h with ⟨rest, hrest, h⟩
      rw [← Except.ok.inj h] at hr
      cases k with
      | zero => exact ⟨v, rfl, Option.some.inj hr ▸ hfirst⟩
      | succ k =>
          rcases ih (index + 1) rest hrest k r hr with ⟨w, hw, hrow⟩
          exact ⟨w, hw, by rw [← hrow]; congr 1; omega⟩

/-- The cycles of a reference are those that its file has for the byte. -/
theorem cyclesInFile?_of_loadReference (d : Disk) (path : Value) (rows : List ReferenceRow)
    (h : loadReference d path = .ok rows) (k : Nat) (r : ReferenceRow) (hr : rows[k]? = some r) :
    ∃ v, cyclesInFile? d path k = some v ∧ Cycles.ofValue v = .ok r.cycles := by
  rcases exists_of_bind_eq_ok h with ⟨v, hv, h⟩
  unfold referenceOf at h
  cases hitems : itemsOf? v with
  | none => simp only [hitems, reduceCtorEq] at h
  | some items =>
      simp only [hitems] at h
      split at h
      · rcases exists_item_of_rowsFrom items 0 rows h k r hr with ⟨item, hitem, hrow⟩
        rcases cycles_of_row _ item r hrow with ⟨parts, hparts, hcycles⟩
        refine ⟨parts.2.2, ?_, hcycles⟩
        unfold cyclesInFile?
        simp only [hv, Except.toOption, hitems, hitem, hparts, Option.bind_eq_bind,
          Option.bind_some]
      · cases h

/-- The value of a file with a written list. -/
theorem readValue_listing (d : Disk) (path : String) (items : List Yaml.Item) (hne : items ≠ [])
    (hsound : ∀ i ∈ items, i.Sound) (hkeyed : ∀ i ∈ items, i.Keyed)
    (hdenotes : ∀ i ∈ items, ∀ f ∈ i.fields, ∃ v, f.cell.Denotes v)
    (hread : d.read path = .ok (Text.encode (String.ofList (Yaml.listing items)))) :
    readValue .referenceUnreadable d (.text path) =
      .ok (.list (items.map fun i => .map (i.fields.map Yaml.Field.entry))) := by
  have hload := Yaml.load_listing items hne hsound hkeyed hdenotes [] (Or.inl rfl)
  have hunix : Text.unixLines (Yaml.listing items) = Yaml.listing items := by
    refine Text.unixLines_eq_self _ fun hreturn => ?_
    have hplain := Yaml.isPlainText_listing items hsound [] (Or.inl rfl) '\r'
      (List.mem_append_left _ hreturn)
    exact absurd hplain (by decide)
  rw [List.append_nil] at hload
  unfold readValue Value.diskPath?
  simp only [hread, Text.decode_encode, String.toList_ofList, Settings.valueOf, hunix, hload]

/-- The cycles of an entry are written as a natural number in decimal digits. -/
def Entry.PrintsNumber (e : Entry) : Prop :=
  ∃ n : Nat, e.cycles.text = Number.decimalNat n

theorem printsNumber_iff (e : Entry) : e.PrintsNumber ↔ ∃ n : Nat, e.cycles = .count n :=
  exists_congr fun n => ⟨e.cycles.text_inj (.count n), fun h => congrArg Cycles.text h⟩

/-- The cycles of a row are digits. -/
theorem printsNumber_of_declares (registry : Registry) (i : Instruction) (r : Row) (e : Entry)
    (h : Declares registry i r e) : e.PrintsNumber := by
  cases h with
  | columns label form opcode bytes cycles rest mode n digits plus hmode hopcode hcycles =>
      exact ⟨_, rfl⟩

end Opcode

namespace Generator

/-- A truth value for the placeholder in the first row. -/
def flagItems : List Yaml.Item :=
  rowItem "imp".toList "NOP".toList ⟨"true".toList, false⟩
    :: List.replicate 255 (rowItem "imp".toList "LDA".toList ⟨"2".toList, false⟩)

/-- What the items describe. -/
def flagReference : List ReferenceRow :=
  withPlaceholder (.flag true)

/-- A disk with that file and a directory without documents. -/
def flagDisk : Disk :=
  ⟨["w"], [(["w"], .directory), (["w", "docs"], .directory),
    (["w", "r.yml"], .file (Text.encode (String.ofList (Yaml.listing flagItems))))]⟩

/-- A run over that directory with that reference. -/
def flagRun : Generator :=
  ⟨{ Settings.default with specDirectory := .text "docs" }, Registry.ofList defaultCapabilities,
    flagReference⟩

theorem forall_mem_flagItems (p : Yaml.Item → Prop)
    (hfirst : p (rowItem "imp".toList "NOP".toList ⟨"true".toList, false⟩))
    (hmore : p (rowItem "imp".toList "LDA".toList ⟨"2".toList, false⟩)) :
    ∀ i ∈ flagItems, p i := by
  intro i hi
  rcases List.mem_cons.mp hi with rfl | hi
  · exact hfirst
  · rw [List.eq_of_mem_replicate hi]
    exact hmore

theorem readValue_flagDisk : readValue .referenceUnreadable flagDisk (.text "r.yml") =
    .ok (.list (flagItems.map fun i => .map (i.fields.map Yaml.Field.entry))) := by
  have hread : flagDisk.read "r.yml" =
      .ok (Text.encode (String.ofList (Yaml.listing flagItems))) := rfl
  have hsound : ∀ i ∈ flagItems, i.Sound := forall_mem_flagItems _
    (sound_rowItem _ _ _ (by decide) (by decide) ⟨by decide, fun _ => by decide⟩)
    (sound_rowItem _ _ _ (by decide) (by decide) ⟨by decide, fun _ => by decide⟩)
  have hkeyed : ∀ i ∈ flagItems, i.Keyed :=
    forall_mem_flagItems _ (keyed_rowItem _ _ _) (keyed_rowItem _ _ _)
  have hdenotes : ∀ i ∈ flagItems, ∀ f ∈ i.fields, ∃ v, f.cell.Denotes v :=
    forall_mem_flagItems _ (denotes_rowItem _ _ _ (.bool true) rfl)
      (denotes_rowItem _ _ _ (.int 2) rfl)
  exact readValue_listing flagDisk "r.yml" flagItems (List.cons_ne_nil _ _) hsound hkeyed hdenotes
    hread

theorem cyclesInFile?_flagDisk : cyclesInFile? flagDisk (.text "r.yml") 0 = some (.bool true) := by
  unfold cyclesInFile?
  rw [readValue_flagDisk]
  rfl

theorem loadReference_flagDisk : loadReference flagDisk (.text "r.yml") = .ok flagReference := by
  have hfirst : ReferenceRow.ofValue 0 (.map ((rowItem "imp".toList "NOP".toList
      ⟨"true".toList, false⟩).fields.map Yaml.Field.entry)) = .ok ⟨"imp", "NOP", .flag true⟩ := rfl
  have hmore : ∀ index, ReferenceRow.ofValue index (.map ((rowItem "imp".toList "LDA".toList
      ⟨"2".toList, false⟩).fields.map Yaml.Field.entry)) = .ok ⟨"imp", "LDA", .count 2⟩ :=
    fun _ => rfl
  have hrest : ∀ n index, rowsFrom index (List.replicate n (.map ((rowItem "imp".toList
      "LDA".toList ⟨"2".toList, false⟩).fields.map Yaml.Field.entry))) =
        .ok (List.replicate n ⟨"imp", "LDA", .count 2⟩) := by
    intro n
    induction n with
    | zero => exact fun _ => rfl
    | succ n ih =>
        intro index
        rw [List.replicate_succ, rowsFrom, hmore index]
        simp only [bind, Except.bind, ih]
        rfl
  have hlen : flagItems.length = opcodeSpace := by
    unfold flagItems
    rw [List.length_cons, List.length_replicate]
    rfl
  unfold loadReference
  rw [readValue_flagDisk]
  simp only [bind, Except.bind, referenceOf, itemsOf?, List.length_map, hlen, if_true]
  unfold flagItems
  rw [List.map_cons, List.map_replicate, rowsFrom, hfirst]
  simp only [bind, Except.bind, hrest]
  rfl

theorem documents_flagDisk : documents flagDisk (.text "docs") = .ok (⟨"docs"⟩, []) := by
  have hnames : flagDisk.names "docs" = .ok [] := rfl
  have hfiles : (Library.mk "docs").fileNames flagDisk = [] := by
    unfold Library.fileNames
    simp only [hnames, List.filter_nil, List.mergeSort_nil]
  have hids : (Library.mk "docs").identifiers flagDisk = .ok [] := by
    rw [Library.identifiers_eq_ok_iff, hfiles]
    exact ⟨rfl, rfl⟩
  unfold documents
  simp only [hids]

/-- Without documents the placeholder of the first row still stands. -/
theorem standing_flagReference : Standing flagRun.registry [] flagRun.reference ⟨0, by decide⟩
    ⟨"imp", "NOP", .flag true⟩ := by
  refine ⟨rfl, by decide +kernel, ?_⟩
  rintro e ⟨i, hi, -⟩
  exact absurd hi List.not_mem_nil

theorem generate_flagRun : ∃ made, (flagRun.generate flagDisk).2 = .ok made ∧
    made.instructions = [] := by
  have hlen : flagReference.length = opcodeSpace := length_withPlaceholder _
  have hmodes : referenceFailures flagRun.registry 0 flagReference = [] :=
    referenceFailures_withPlaceholder _
  rcases (exists_validated_iff flagRun flagDisk ⟨[], [], []⟩).mpr ⟨⟨⟨"docs"⟩, [],
      documents_flagDisk, rfl⟩, rfl, hlen, List.forall_mem_nil _, hmodes, rfl⟩ with ⟨b, hv⟩
  have hr : flagRun.registry.Coherent :=
    Registry.coherent_of_nodup defaultCapabilities (by decide)
  refine ⟨_, hv.generate_eq_of_coherent hr fun k r hstanding => ?_, rfl⟩
  rw [← (placeholder_withPlaceholder _ k r hstanding.row hstanding.placeholder).2]
  rfl

end Generator

end OpcodeForge
