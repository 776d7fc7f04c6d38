import OpcodeForge.Proofs.Opcode.Integers
import OpcodeForge.Proofs.Text.Encoding
import OpcodeForge.Proofs.Text.LineEnds
import OpcodeForge.Proofs.Yaml.Listing
import OpcodeForge.Proofs.Yaml.Numbers

/-!
# Written Reference Files

A reference can be written with a line for each byte, and is read back from such a file. Modes and
names stand in double quotes there and are texts whatever they look like, be it the word for a
truth value or a number. Cycles may stand in quotes as well. Without them the form of the text
decides what it is, and with them the reader of cycles does; both find the same number, in base ten
and in base sixteen.

## Main definitions

* `Written`: The ways to write a number.
* `WrittenRow`: A row as it is written.
* `rowItem`: An item of a reference file, whatever its cycles are.

## Theorems

* `denotes_written`: A written number stands for the number, with quotes or without.
* `loadReference_written`: A written reference is read back.
-/

namespace OpcodeForge.Opcode

/-- The ways to write a number: in decimal or hexadecimal digits, in double quotes or without. -/
inductive Written (n : Nat) : Yaml.Cell → Prop
  | decimal (quoted : Bool) : Written n ⟨Nat.toDigits 10 n, quoted⟩
  | hexadecimal (quoted : Bool) (digits : List Char)
      (h : digits.map Char.toLower = Nat.toDigits 16 n) : Written n ⟨'0' :: 'x' :: digits, quoted⟩

/-- A row as it is written, and its cycles as a number. -/
structure WrittenRow where
  mode : List Char
  name : List Char
  count : Nat
  cycles : Yaml.Cell

namespace WrittenRow

/-- The mode and the name are made of letters and digits, and the number is not too long. -/
structure Sound (r : WrittenRow) : Prop where
  mode : Yaml.IsWord r.mode
  name : Yaml.IsWord r.name
  few : (Nat.toDigits 10 r.count).length ≤ Number.maxDigits
  cycles : Written r.count r.cycles

/-- The line of a row. -/
def line (r : WrittenRow) : List Char :=
  "- \x7bmode: \"".toList ++ r.mode ++ "\", name: \"".toList ++ r.name ++ "\", cycles: ".toList ++
    r.cycles.written ++ "\x7d".toList

/-- The row that is written. -/
def row (r : WrittenRow) : ReferenceRow where
  mode := String.ofList (r.mode.map Char.toLower)
  name := String.ofList (r.name.map Char.toUpper)
  cycles := .count r.count

/-- The line as an item of a list. -/
def item (r : WrittenRow) : Yaml.Item where
  first := ⟨"mode".toList, ⟨r.mode, true⟩⟩
  more := [⟨"name".toList, ⟨r.name, true⟩⟩, ⟨"cycles".toList, r.cycles⟩]

theorem line_item (r : WrittenRow) : r.item.line = r.line := by
  unfold Yaml.Item.line line item Yaml.moreWritten Yaml.Field.written
  simp [Yaml.Cell.written]

end WrittenRow

theorem isWord_decimal (n : Nat) : Yaml.IsWord (Nat.toDigits 10 n) := by
  intro c hc
  have hdigit := Nat.isDigit_of_mem_toDigits (b := 10) (n := n) (by decide) (by decide) hc
  unfold Char.isAlphanum
  rw [hdigit, Bool.or_true]

/-- A written number is one word. -/
theorem sound_written (n : Nat) (w : Yaml.Cell) (h : Written n w) : w.Sound := by
  cases h with
  | decimal quoted => exact ⟨isWord_decimal n, fun _ => Nat.toDigits_ne_nil⟩
  | hexadecimal quoted digits h =>
      refine ⟨fun c hc => ?_, fun _ => List.cons_ne_nil _ _⟩
      rcases List.mem_cons.mp hc with rfl | hc
      · decide
      · rcases List.mem_cons.mp hc with rfl | hc
        · decide
        · exact Yaml.forall_hexadecimal n digits h Char.isAlphanum (by decide) c hc

/-- A written number stands for the number, with quotes or without. -/
theorem denotes_written (n : Nat) (w : Yaml.Cell) (h : Written n w)
    (hfew : (Nat.toDigits 10 n).length ≤ Number.maxDigits) :
    ∃ v, w.Denotes v ∧ Cycles.ofValue v = .ok (.count n) := by
  cases h with
  | decimal quoted =>
      cases quoted with
      | true => exact ⟨_, rfl, cycles_decimal n hfew⟩
      | false =>
          refine ⟨.int n, ?_, rfl⟩
          change Yaml.scalarValue (.ofPlain (Nat.toDigits 10 n)) (Nat.toDigits 10 n) = _
          rw [Yaml.ofPlain_decimal, Yaml.scalarValue, Yaml.intOf_decimal n hfew]
          rfl
  | hexadecimal quoted digits h =>
      cases quoted with
      | true =>
          exact ⟨_, rfl, cycles_hexadecimal n digits digits h
            (Number.inGroups_self digits (Number.hexadecimal_ne_nil n digits h))⟩
      | false =>
          refine ⟨.int n, ?_, rfl⟩
          change Yaml.scalarValue (.ofPlain ('0' :: 'x' :: digits)) ('0' :: 'x' :: digits) = _
          rw [Yaml.ofPlain_hexadecimal n digits h, Yaml.scalarValue,
            Yaml.intOf_hexadecimal n digits h]
          rfl

theorem lower_word (w : List Char) (hw : Yaml.IsWord w) :
    Text.lower (String.ofList w) = String.ofList (w.map Char.toLower) := by
  unfold Text.lower Text.lowerChars
  rw [String.toList_ofList, Text.lowerFrom_ascii]
  intro c hc
  have hbounds := Yaml.toNat_of_isAlphanum c (hw c hc)
  omega

theorem upper_word (w : List Char) (hw : Yaml.IsWord w) :
    Text.upper (String.ofList w) = String.ofList (w.map Char.toUpper) := by
  have hupper : ∀ c ∈ w, Text.upperChar c = [c.toUpper] := by
    intro c hc
    have hbounds := Yaml.toNat_of_isAlphanum c (hw c hc)
    exact Text.upperChar_ascii c (by omega)
  unfold Text.upper Text.upperChars
  rw [String.toList_ofList, List.map_eq_flatMap, List.flatMap_def, List.flatMap_def,
    List.map_congr_left hupper]

/-- An item that has a mode and a name in quotes, and cycles. -/
def rowItem (mode name : List Char) (cycles : Yaml.Cell) : Yaml.Item where
  first := ⟨"mode".toList, ⟨mode, true⟩⟩
  more := [⟨"name".toList, ⟨name, true⟩⟩, ⟨"cycles".toList, cycles⟩]

section

variable (mode name : List Char) (cycles : Yaml.Cell)

theorem keys_rowItem : (rowItem mode name cycles).fields.map Yaml.Field.key =
    ["mode".toList, "name".toList, "cycles".toList] := rfl

/-- The item is in order if its words and its cycles are. -/
theorem sound_rowItem (hmode : Yaml.IsWord mode) (hname : Yaml.IsWord name)
    (hcycles : cycles.Sound) : (rowItem mode name cycles).Sound := by
  have hkeys : ∀ key ∈ ["mode".toList, "name".toList, "cycles".toList],
      Yaml.IsWord key ∧ key ≠ [] ∧ key.length ≤ 1024 := by decide
  have hcells : ∀ f ∈ (rowItem mode name cycles).fields, f.cell.Sound := by
    intro f hf
    unfold rowItem Yaml.Item.fields at hf
    simp only [List.mem_cons, List.not_mem_nil, or_false] at hf
    rcases hf with rfl | rfl | rfl
    · exact ⟨hmode, fun hquoted => absurd hquoted.symm Bool.false_ne_true⟩
    · exact ⟨hname, fun hquoted => absurd hquoted.symm Bool.false_ne_true⟩
    · exact hcycles
  intro f hf
  have hkey : f.key ∈ ["mode".toList, "name".toList, "cycles".toList] :=
    keys_rowItem mode name cycles ▸ List.mem_map_of_mem hf
  rcases hkeys f.key hkey with ⟨hword, hfull, hshort⟩
  exact ⟨hword, hfull, hshort, hcells f hf⟩

theorem keyed_rowItem : (rowItem mode name cycles).Keyed := by
  have htext : ∀ key ∈ ["mode".toList, "name".toList, "cycles".toList],
      Yaml.Tag.ofPlain key = .text := by decide
  constructor
  · intro f hf
    exact htext f.key (keys_rowItem mode name cycles ▸ List.mem_map_of_mem hf)
  · rw [keys_rowItem]
    decide

/-- What is in quotes is a text, so only the cycles need to stand for something. -/
theorem denotes_rowItem (v : Value) (hv : cycles.Denotes v) :
    ∀ f ∈ (rowItem mode name cycles).fields, ∃ w, f.cell.Denotes w := by
  intro f hf
  unfold rowItem Yaml.Item.fields at hf
  simp only [List.mem_cons, List.not_mem_nil, or_false] at hf
  rcases hf with rfl | rfl | rfl
  · exact ⟨_, rfl⟩
  · exact ⟨_, rfl⟩
  · exact ⟨v, hv⟩

end

namespace WrittenRow

variable (r : WrittenRow) (h : r.Sound)

include h

theorem item_sound : r.item.Sound :=
  sound_rowItem r.mode r.name r.cycles h.mode h.name (sound_written r.count r.cycles h.cycles)

omit h in
theorem item_keyed : r.item.Keyed :=
  keyed_rowItem r.mode r.name r.cycles

theorem item_denotes : ∀ f ∈ r.item.fields, ∃ v, f.cell.Denotes v := by
  rcases denotes_written r.count r.cycles h.cycles h.few with ⟨v, hv, _⟩
  exact denotes_rowItem r.mode r.name r.cycles v hv

/-- The mapping of a line describes the row. -/
theorem ofValue_item (index : Nat) :
    ReferenceRow.ofValue index (.map (r.item.fields.map Yaml.Field.entry)) = .ok r.row := by
  rcases denotes_written r.count r.cycles h.cycles h.few with ⟨v, hv, hcycles⟩
  have hentries : r.item.fields.map Yaml.Field.entry =
      [(.text "mode", .text (String.ofList r.mode)), (.text "name", .text (String.ofList r.name)),
        (.text "cycles", v)] := by
    unfold item Yaml.Item.fields
    simp only [List.map_cons, List.map_nil, Yaml.Field.entry, hv.value_eq]
    rfl
  have hname : Value.lookup (r.item.fields.map Yaml.Field.entry) "name" =
      some (.text (String.ofList r.name)) := by
    rw [hentries]
    rfl
  have hcount : Value.lookup (r.item.fields.map Yaml.Field.entry) "cycles" = some v := by
    rw [hentries]
    rfl
  have hmode : Value.lookup (r.item.fields.map Yaml.Field.entry) "mode" =
      some (.text (String.ofList r.mode)) := by
    rw [hentries]
    rfl
  have hparts : ReferenceRow.ofParts (.text (String.ofList r.mode)) (.text (String.ofList r.name)) v
      = .ok r.row := by
    unfold ReferenceRow.ofParts
    rw [if_pos (by simp only [Value.isWritable, Bool.and_self]), hcycles]
    change Except.ok (ReferenceRow.mk (Text.lower (String.ofList r.mode))
      (Text.upper (String.ofList r.name)) (.count r.count)) = _
    rw [lower_word r.mode h.mode, upper_word r.name h.name]
    rfl
  unfold ReferenceRow.ofValue Value.entries?
  simp only [hname, hcount, hmode, Option.getD_some, hparts]

end WrittenRow

/-- The text of a reference: its lines, with the ends of lines between them. -/
def referenceText (rows : List WrittenRow) : List Char :=
  ['\n'].intercalate (rows.map WrittenRow.line)

theorem listing_items (rows : List WrittenRow) :
    Yaml.listing (rows.map WrittenRow.item) = referenceText rows := by
  unfold referenceText
  induction rows with
  | nil => rfl
  | cons r rows ih =>
      cases rows with
      | nil =>
          rw [List.map_singleton, List.map_singleton, List.intercalate_singleton, ← r.line_item]
          exact List.append_nil _
      | cons r' rows =>
          have hfirst : Yaml.listing ((r :: r' :: rows).map WrittenRow.item) =
              r.line ++ ('\n' :: Yaml.listing ((r' :: rows).map WrittenRow.item)) := by
            rw [← r.line_item]
            rfl
          rw [hfirst, ih]
          simp only [List.map_cons, List.intercalate_cons_cons, List.append_assoc,
            List.singleton_append]

theorem rowsFrom_items (rows : List WrittenRow) (hrows : ∀ r ∈ rows, r.Sound) :
    ∀ index, rowsFrom index (rows.map fun r => .map (r.item.fields.map Yaml.Field.entry)) =
      .ok (rows.map WrittenRow.row) := by
  induction rows with
  | nil => exact fun index => rfl
  | cons r rows ih =>
      intro index
      rw [List.map_cons, rowsFrom, r.ofValue_item (hrows r List.mem_cons_self) index]
      simp only [bind, Except.bind, ih (fun r' hr => hrows r' (List.mem_cons_of_mem r hr))]
      rfl

/-- A written reference is read back, whichever way each number is written. The last line may have
    an end or not. -/
theorem loadReference_written (d : Disk) (path : String) (rows : List WrittenRow)
    (hlen : rows.length = opcodeSpace) (hrows : ∀ r ∈ rows, r.Sound) (final : List Char)
    (hfinal : final = [] ∨ final = ['\n'])
    (hread : d.read path = .ok (Text.encode (String.ofList (referenceText rows ++ final)))) :
    loadReference d (.text path) = .ok (rows.map WrittenRow.row) := by
  have hitems : ∀ i ∈ rows.map WrittenRow.item, ∃ r ∈ rows, r.item = i :=
    fun i hi => List.mem_map.mp hi
  have hsound : ∀ i ∈ rows.map WrittenRow.item, i.Sound := by
    intro i hi
    rcases hitems i hi with ⟨r, hr, rfl⟩
    exact r.item_sound (hrows r hr)
  have hkeyed : ∀ i ∈ rows.map WrittenRow.item, i.Keyed := by
    intro i hi
    rcases hitems i hi with ⟨r, _, rfl⟩
    exact r.item_keyed
  have hdenotes : ∀ i ∈ rows.map WrittenRow.item, ∀ f ∈ i.fields, ∃ v, f.cell.Denotes v := by
    intro i hi
    rcases hitems i hi with ⟨r, hr, rfl⟩
    exact r.item_denotes (hrows r hr)
  have hne : rows.map WrittenRow.item ≠ [] := by
    intro hnil
    rw [List.map_eq_nil_iff.mp hnil] at hlen
    exact absurd hlen (by decide)
  have hload : Yaml.load (referenceText rows ++ final) =
      .ok (.list (rows.map fun r => .map (r.item.fields.map Yaml.Field.entry))) := by
    rw [← listing_items, Yaml.load_listing _ hne hsound hkeyed hdenotes final hfinal, List.map_map]
    rfl
  have hunix : Text.unixLines (referenceText rows ++ final) = referenceText rows ++ final := by
    refine Text.unixLines_eq_self _ fun hreturn => ?_
    rw [← listing_items] at hreturn
    have hplain := Yaml.isPlainText_listing _ hsound final hfinal '\r' hreturn
    exact absurd hplain (by decide)
  have hvalue : Settings.readValue .referenceUnreadable d (.text path) =
      .ok (.list (rows.map fun r => .map (r.item.fields.map Yaml.Field.entry))) := by
    unfold Settings.readValue Value.diskPath?
    simp only [hread, Text.decode_encode, String.toList_ofList, Settings.valueOf, hunix, hload]
  unfold loadReference
  rw [hvalue]
  simp only [bind, Except.bind, referenceOf, itemsOf?, List.length_map, hlen, if_true]
  exact rowsFrom_items rows hrows 0

/-- Rows of which no two are written in the same way. Their modes and names are no texts without
    quotes. -/
def fourRows : List WrittenRow := [
  ⟨"NO".toList, "on".toList, 0, ⟨"0".toList, false⟩⟩,
  ⟨[], "1E3".toList, 26, ⟨"0x1a".toList, false⟩⟩,
  ⟨"0x10".toList, "null".toList, 7, ⟨"7".toList, true⟩⟩,
  ⟨"12".toList, "true".toList, 255, ⟨"0xFf".toList, true⟩⟩]

/-- The four rows over and over. -/
def manyRows : List WrittenRow :=
  (List.replicate 64 fourRows).flatten

/-- A disk with a file. -/
def diskWith (bytes : List UInt8) : Disk :=
  ⟨[], [(["r.yml"], .file bytes)]⟩

theorem loadReference_written_fourRows :
    loadReference (diskWith (Text.encode (String.ofList (referenceText manyRows ++ ['\n']))))
      (.text "r.yml") = .ok (manyRows.map WrittenRow.row) ∧
    fourRows.map WrittenRow.row = [⟨"no", "ON", .count 0⟩, ⟨"", "1E3", .count 26⟩,
      ⟨"0x10", "NULL", .count 7⟩, ⟨"12", "TRUE", .count 255⟩] := by
  have hfour : ∀ r ∈ fourRows, r.Sound := by
    unfold fourRows
    simp only [List.mem_cons, List.not_mem_nil, or_false]
    rintro r (rfl | rfl | rfl | rfl)
    · exact ⟨by decide, by decide, by decide, .decimal false⟩
    · exact ⟨by decide, by decide, by decide, .hexadecimal false ['1', 'a'] (by decide)⟩
    · exact ⟨by decide, by decide, by decide, .decimal true⟩
    · exact ⟨by decide, by decide, by decide, .hexadecimal true ['F', 'f'] (by decide)⟩
  have hmany : ∀ r ∈ manyRows, r.Sound := by
    intro r hr
    rcases List.mem_flatten.mp hr with ⟨rows, hrows, hr⟩
    rw [List.eq_of_mem_replicate hrows] at hr
    exact hfour r hr
  have hlen : manyRows.length = opcodeSpace := by
    unfold manyRows
    rw [List.length_flatten, List.map_replicate, List.sum_replicate_nat]
    rfl
  exact ⟨loadReference_written _ "r.yml" manyRows hlen hmany ['\n'] (Or.inr rfl) rfl, by decide⟩

end OpcodeForge.Opcode
