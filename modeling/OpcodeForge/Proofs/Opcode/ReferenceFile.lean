import OpcodeForge.Opcode.ReferenceFile
import OpcodeForge.Proofs.Settings

/-!
# Reference Files That Cannot Be Read

A reference file is read item by item, and the first item that describes no row decides how the
reading ends. Mostly that is a report. There is none if an integer in the item is too long: the
name and the mode of a row are made from the text of their values, and the report about cycles
that are no integer names the value (`LongRow`). The cycles themselves may well be too long, for
nobody writes them here.

## Main definitions

* `rowParts?`: The values that a row is made of.
* `describesRow`: Whether a value describes a row.
* `LongRow`: A value describes no row, and there is no report of it.
* `UnloadedReference`: A reference cannot be read, and there is no report.

## Theorems

* `stopsFor_ofParts`, `stopsFor_rowsFrom`, `stopsFor_referenceOf`: The causes of each step.
* `stopsFor_loadReference`: The causes of a whole file.
* `length_of_loadReference`: A reference from a file has a row for each byte.
-/

namespace OpcodeForge.Opcode

open Settings (Unread readValue stopsFor_readValue)

/-- Whether a value stands for an integer. -/
def denotesInteger (v : Value) : Bool :=
  match v with
  | .bool _ => true
  | .int _ => true
  | .text s => (integerOf? s).isSome
  | _ => false

/-- The mode, the name and the cycles of the row that a value describes. -/
def rowParts? (v : Value) : Option (Value × Value × Value) := do
  let entries ← v.entries?
  let name ← Value.lookup entries "name"
  let cycles ← Value.lookup entries "cycles"
  some ((Value.lookup entries "mode").getD (.text impliedMode), name, cycles)

/-- Whether a value describes a row. -/
def describesRow (v : Value) : Bool :=
  match rowParts? v with
  | some (mode, name, cycles) => mode.isWritable && name.isWritable && denotesInteger cycles
  | none => false

/-- An integer in a value is too long for the row that the value describes, or for the report
    that its cycles are no integer. -/
def LongRow (v : Value) : Prop :=
  ∃ mode name cycles, rowParts? v = some (mode, name, cycles) ∧
    ((mode.isWritable && name.isWritable) = false ∨
      (denotesInteger cycles = false ∧ cycles.isWritable = false))

theorem ofValue_eq (index : Nat) (v : Value) : ReferenceRow.ofValue index v =
    match rowParts? v with
    | none => .error (.failure (.config (.referenceEntry index)))
    | some (mode, name, cycles) => ReferenceRow.ofParts mode name cycles := by
  unfold ReferenceRow.ofValue rowParts?
  cases v.entries? with
  | none => rfl
  | some entries =>
      simp only [Option.bind_eq_bind, Option.bind_some]
      cases Value.lookup entries "name" with
      | none => rfl
      | some name =>
          cases Value.lookup entries "cycles" with
          | none => rfl
          | some cycles => rfl

theorem stopsFor_notAnInteger {α : Type} (v : Value) :
    StopsFor (fun x => v.isWritable = false ∧ x = .numberTooLong)
      (.error (notAnInteger v) : Except Halt α) := by
  unfold notAnInteger
  cases v.isWritable with
  | true => exact (StopsFor.config _).congr fun x => by simp
  | false => exact (StopsFor.stop _).congr fun x => by simp

theorem stopsFor_cycles (v : Value) :
    StopsFor (fun x => (denotesInteger v = false ∧ v.isWritable = false) ∧ x = .numberTooLong)
      (Cycles.ofValue v) := by
  unfold Cycles.ofValue denotesInteger
  cases v with
  | bool b => exact (StopsFor.ok _).congr fun x => by simp
  | int i => exact (StopsFor.ok _).congr fun x => by simp
  | text s =>
      dsimp only
      cases integerOf? s with
      | some i => exact (StopsFor.ok _).congr fun x => by simp
      | none => exact (stopsFor_notAnInteger _).congr fun x => by simp
  | _ => exact (stopsFor_notAnInteger _).congr fun x => by simp

theorem cycles_eq_ok_iff (v : Value) :
    (∃ c, Cycles.ofValue v = .ok c) ↔ denotesInteger v = true := by
  unfold Cycles.ofValue denotesInteger
  cases v with
  | text s => cases hs : integerOf? s <;> simp [hs]
  | _ => simp

theorem stopsFor_ofParts (mode name cycles : Value) :
    StopsFor (fun x => ((mode.isWritable && name.isWritable) = false ∨
      (denotesInteger cycles = false ∧ cycles.isWritable = false)) ∧ x = .numberTooLong)
      (ReferenceRow.ofParts mode name cycles) := by
  unfold ReferenceRow.ofParts
  cases mode.isWritable && name.isWritable with
  | true =>
      exact ((stopsFor_cycles cycles).bind fun c _ => StopsFor.ok _).congr fun x => by simp
  | false => exact (StopsFor.stop _).congr fun x => by simp

theorem stopsFor_row (index : Nat) (v : Value) :
    StopsFor (fun x => LongRow v ∧ x = .numberTooLong) (ReferenceRow.ofValue index v) := by
  rw [ofValue_eq]
  unfold LongRow
  cases rowParts? v with
  | none => exact (StopsFor.config _).congr fun x => by simp
  | some parts =>
      rcases parts with ⟨mode, name, cycles⟩
      exact (stopsFor_ofParts mode name cycles).congr fun x => by
        simp only [Option.some.injEq, Prod.mk.injEq, and_assoc, exists_eq_left', exists_and_left]

theorem row_eq_ok_iff (index : Nat) (v : Value) :
    (∃ r, ReferenceRow.ofValue index v = .ok r) ↔ describesRow v = true := by
  rw [ofValue_eq]
  unfold describesRow
  cases rowParts? v with
  | none => simp
  | some parts =>
      rcases parts with ⟨mode, name, cycles⟩
      dsimp only
      rw [Bool.and_eq_true, ← cycles_eq_ok_iff]
      unfold ReferenceRow.ofParts
      cases mode.isWritable && name.isWritable with
      | false => simp
      | true => cases Cycles.ofValue cycles <;> simp [bind, Except.bind, pure, Except.pure]

theorem not_longRow_of_describesRow (v : Value) (h : describesRow v = true) : ¬LongRow v := by
  rintro ⟨mode, name, cycles, hparts, hlong⟩
  rw [describesRow, hparts] at h
  simp only [Bool.and_eq_true] at h
  rcases hlong with hlong | ⟨hlong, -⟩
  · simp [h] at hlong
  · simp [h] at hlong

/-- The first item that describes no row is one without a report. -/
def FirstLongRow (items : List Value) : Prop :=
  ∃ v, items.find? (fun v => !describesRow v) = some v ∧ LongRow v

theorem stopsFor_rowsFrom (items : List Value) : ∀ index,
    StopsFor (fun x => FirstLongRow items ∧ x = .numberTooLong) (rowsFrom index items) := by
  induction items with
  | nil => exact fun index => (StopsFor.ok []).congr fun x => by simp [FirstLongRow]
  | cons v rest ih =>
      intro index
      refine ((stopsFor_row index v).bind fun r _ =>
        (ih (index + 1)).bind fun rows _ => StopsFor.ok _).congr fun x => ?_
      -- An item that describes a row is passed over, and the first other one decides.
      have hfirst : FirstLongRow (v :: rest) ↔ (describesRow v = false ∧ LongRow v) ∨
          (describesRow v = true ∧ FirstLongRow rest) := by
        unfold FirstLongRow
        rw [List.find?_cons]
        cases describesRow v <;> simp
      simp only [and_false, exists_false, or_false, exists_and_right]
      rw [hfirst, row_eq_ok_iff]
      cases hrow : describesRow v with
      | false => simp
      | true => simp [not_longRow_of_describesRow v hrow]

theorem length_of_rowsFrom (items : List Value) :
    ∀ index rows, rowsFrom index items = .ok rows → rows.length = items.length := by
  induction items with
  | nil =>
      intro index rows h
      rw [← Except.ok.inj h, List.length_nil, List.length_nil]
  | cons v rest ih =>
      intro index rows h
      rcases exists_of_bind_eq_ok h with ⟨r, -, h⟩
      rcases exists_of_bind_eq_ok h with ⟨rows', hrows, h⟩
      rw [← Except.ok.inj h, List.length_cons, List.length_cons, ih _ _ hrows]

theorem stopsFor_referenceOf (path v : Value) :
    StopsFor (fun x => (∃ items, itemsOf? v = some items ∧ items.length = opcodeSpace ∧
      FirstLongRow items) ∧ x = .numberTooLong) (referenceOf path v) := by
  unfold referenceOf
  cases itemsOf? v with
  | none => exact (StopsFor.config _).congr fun x => by simp
  | some items =>
      dsimp only
      split
      · rename_i hlen
        exact (stopsFor_rowsFrom items 0).congr fun x => by simp [hlen]
      · rename_i hlen
        exact (StopsFor.config _).congr fun x => by simp [hlen]

/-- What keeps a file from being read as a reference, if there is no report. -/
inductive UnloadedReference (d : Disk) (path : Value) : Defect → Prop
  | file (p : String) (x : Defect) (hp : path.diskPath? = some p) (h : Unread d p x) :
      UnloadedReference d path x
  | row (v : Value) (items : List Value) (hv : readValue .referenceUnreadable d path = .ok v)
      (hitems : itemsOf? v = some items) (hlen : items.length = opcodeSpace)
      (h : FirstLongRow items) : UnloadedReference d path .numberTooLong

theorem stopsFor_loadReference (d : Disk) (path : Value) (hpath : path.IsPath) :
    StopsFor (UnloadedReference d path) (loadReference d path) := by
  rcases hpath.exists_diskPath with ⟨p, hp⟩
  refine StopsFor.congr ((stopsFor_readValue _ d path p hp).bind fun v _ =>
    stopsFor_referenceOf path v) fun x => ?_
  constructor
  · rintro (h | ⟨v, hv, ⟨items, hitems, hlen, h⟩, rfl⟩)
    · exact .file p x hp h
    · exact .row v items hv hitems hlen h
  · intro h
    cases h with
    | file p' x hp' h =>
        rw [hp, Option.some.injEq] at hp'
        exact Or.inl (hp' ▸ h)
    | row v items hv hitems hlen h => exact Or.inr ⟨v, hv, ⟨items, hitems, hlen, h⟩, rfl⟩

/-- A reference from a file has a row for each byte. -/
theorem length_of_loadReference (d : Disk) (path : Value) (rows : List ReferenceRow)
    (h : loadReference d path = .ok rows) : rows.length = opcodeSpace := by
  rcases exists_of_bind_eq_ok h with ⟨v, -, h⟩
  unfold referenceOf at h
  split at h
  · exact absurd h (by simp only [reduceCtorEq, not_false_eq_true])
  · split at h
    · rename_i items _ hlen
      rw [length_of_rowsFrom items 0 rows h, hlen]
    · exact absurd h (by simp only [reduceCtorEq, not_false_eq_true])

end OpcodeForge.Opcode
