import Mathlib.Data.List.Forall2
import OpcodeForge.Proofs.Opcode.Columns

/-!
# Which Fields Are Read

The cell of an opcode and the cell of the cycles are read by steps, each of which may refuse
the cell. What they accept together is one form for each, said here without the steps.

A cell of an opcode is three characters, of which the last two are hexadecimal digits in either
case. A cell of cycles is a run of decimal digits of any script with blanks around it, and
perhaps a plus and more blanks. Whatever has the form is read as the number that its digits stand
for, unless there are too many of them. Whatever does not have it is reported, with the cell.

A cell of cycles has no other place for a plus than behind its digits. So a plus that is taken
out of a cell which is read was the one that marks the crossing of a page, and the cell without
it is read as the same number.

## Main definitions

* `OpcodeCell`: The cells for an opcode.
* `Denotes`: The number that a run of digits stands for.

## Theorems

* `opcodeOf?_eq_some_iff`: Which cells are read as an opcode.
* `denotes_iff`: Digits are read as the number that they stand for.
* `cycleCell_of_cyclesOf?`: What is read as digits and a plus is a cell for them.
* `cycleCell_append_plus`, `cycleCell_erase_plus`: A plus comes and goes.
* `cycles_of_cycleCell`, `cycles_of_not_cycleCell`: What becomes of a cell of cycles.
* `fields_read`: What becomes of every row with all columns.
-/

namespace OpcodeForge

namespace Opcode

/-- The cells for an opcode: any character, and then two hexadecimal digits. -/
inductive OpcodeCell : String → Nat → Prop
  | digits (mark high low : Char) (h l : Nat) (hhigh : Text.IsHexDigit high h)
      (hlow : Text.IsHexDigit low l) : OpcodeCell (String.ofList [mark, high, low]) (16 * h + l)

/-- The number that a run of decimal digits stands for. There is at least one of them, and they
    may be of different scripts. -/
def Denotes (digits : List Char) (n : Nat) : Prop :=
  digits ≠ [] ∧ ∃ ds, List.Forall₂ Text.IsDecimalDigit digits ds ∧ Nat.ofDigits 10 ds.reverse = n

theorem opcodeOf?_eq_some_iff (cell : String) (v : Nat) :
    Row.opcodeOf? cell.toList = some v ↔ OpcodeCell cell v := by
  constructor
  · intro h
    unfold Row.opcodeOf? at h
    split at h
    · rename_i mark high low hcell
      split at h
      · rename_i hi lo hhigh hlow
        have hv : hi * 16 + lo = v := Option.some.inj h
        rw [← String.ofList_toList (s := cell), hcell, ← hv, Nat.mul_comm]
        exact .digits mark high low hi lo ((Text.hexValue?_eq_some_iff _ _).mp hhigh)
          ((Text.hexValue?_eq_some_iff _ _).mp hlow)
      · exact absurd h (by simp only [reduceCtorEq, not_false_eq_true])
    · exact absurd h (by simp only [reduceCtorEq, not_false_eq_true])
  · intro h
    cases h with
    | digits mark high low hi lo hhigh hlow =>
        rw [String.toList_ofList]
        simp only [Row.opcodeOf?, (Text.hexValue?_eq_some_iff _ _).mpr hhigh,
          (Text.hexValue?_eq_some_iff _ _).mpr hlow, Nat.mul_comm]

theorem forall₂_isDecimalDigit_iff (digits : List Char) :
    ∀ ds, List.Forall₂ Text.IsDecimalDigit digits ds ↔
      (∀ c ∈ digits, Text.isDigit c = true) ∧ digits.filterMap Text.digitValue? = ds := by
  induction digits with
  | nil =>
      intro ds
      rw [List.forall₂_nil_left_iff]
      exact ⟨fun h => ⟨List.forall_mem_nil _, h.symm⟩, fun h => h.2.symm⟩
  | cons c rest ih =>
      intro ds
      rw [List.forall₂_cons_left_iff, List.forall_mem_cons]
      constructor
      · rintro ⟨d, es, hd, hes, rfl⟩
        have hc := (Text.digitValue?_eq_some_iff c d).mpr hd
        rcases (ih es).mp hes with ⟨hrest, hvalues⟩
        exact ⟨⟨Option.isSome_iff_exists.mpr ⟨d, hc⟩, hrest⟩, by
          rw [List.filterMap_cons_some hc, hvalues]⟩
      · rintro ⟨⟨hc, hrest⟩, hvalues⟩
        rcases Option.isSome_iff_exists.mp hc with ⟨d, hd⟩
        rw [List.filterMap_cons_some hd] at hvalues
        exact ⟨d, _, (Text.digitValue?_eq_some_iff c d).mp hd, (ih _).mpr ⟨hrest, rfl⟩,
          hvalues.symm⟩

/-- A run of digits stands for the number that it is read as. -/
theorem denotes_iff (digits : List Char) (n : Nat) :
    Denotes digits n ↔ IsNumeral digits ∧
      Number.foldDigits 10 0 (digits.filterMap Text.digitValue?) = n := by
  unfold Denotes
  simp only [forall₂_isDecimalDigit_iff, Number.foldDigits_eq_ofDigits]
  constructor
  · rintro ⟨hne, ds, ⟨hall, rfl⟩, hvalue⟩
    exact ⟨⟨hne, hall⟩, hvalue⟩
  · rintro ⟨hdigits, hvalue⟩
    exact ⟨hdigits.ne_nil, _, ⟨hdigits.isDigit, rfl⟩, hvalue⟩

theorem length_filterMap_digitValue? (digits : List Char) (h : IsNumeral digits) :
    (digits.filterMap Text.digitValue?).length = digits.length :=
  ((forall₂_isDecimalDigit_iff digits _).mpr ⟨h.isDigit, rfl⟩).length_eq.symm

/-- What is read as digits and a plus has the form of a cell. -/
theorem cycleCell_of_cyclesOf? (cell : String) (ds : List Nat) (plus : Bool)
    (h : Row.cyclesOf? (Text.trim cell.toList) = some (ds, plus)) :
    ∃ digits, IsNumeral digits ∧ digits.filterMap Text.digitValue? = ds ∧
      CycleCell digits plus cell := by
  rcases Text.exists_eq_append_trim cell.toList with ⟨before, after, hbefore, hafter, hcell⟩
  generalize Text.trim cell.toList = text at h hcell
  have hsplit : text = text.takeWhile Text.isDigit
      ++ ((text.dropWhile Text.isDigit).takeWhile Text.isBlank
        ++ (text.dropWhile Text.isDigit).dropWhile Text.isBlank) := by
    rw [List.takeWhile_append_dropWhile, List.takeWhile_append_dropWhile]
  have hblank : ∀ c ∈ (text.dropWhile Text.isDigit).takeWhile Text.isBlank,
      Text.isBlank c = true := fun c hc => List.mem_takeWhile_imp hc
  have hdigit : ∀ c ∈ text.takeWhile Text.isDigit, Text.isDigit c = true := fun c hc =>
    List.mem_takeWhile_imp hc
  -- From here on the cell is blanks, digits, blanks, what is left, and blanks.
  rw [← String.ofList_toList (s := cell), hcell, hsplit]
  unfold Row.cyclesOf? at h
  simp only [] at h
  generalize text.takeWhile Text.isDigit = digits at h hdigit
  generalize (text.dropWhile Text.isDigit).takeWhile Text.isBlank = between at hblank
  split at h
  · exact absurd h (by simp only [reduceCtorEq, not_false_eq_true])
  · rename_i hempty
    have hne : digits ≠ [] := by
      rintro rfl
      exact hempty rfl
    split at h
    · rename_i hrest
      rcases Prod.mk.inj (Option.some.inj h) with ⟨rfl, rfl⟩
      refine ⟨digits, ⟨hne, hdigit⟩, rfl, ?_⟩
      rw [hrest, List.append_nil, ← List.append_assoc, List.append_assoc _ between after]
      exact .plain before _ hbefore (List.forall_mem_append.mpr ⟨hblank, hafter⟩)
    · split at h
      · rename_i hrest
        rcases Prod.mk.inj (Option.some.inj h) with ⟨rfl, rfl⟩
        refine ⟨digits, ⟨hne, hdigit⟩, rfl, ?_⟩
        rw [hrest]
        exact .plus before between after hbefore hblank hafter
      · exact absurd h (by simp only [reduceCtorEq, not_false_eq_true])

/-- A cell without a plus takes one at its end. -/
theorem cycleCell_append_plus (digits : List Char) (cell : String)
    (h : CycleCell digits false cell) : CycleCell digits true (cell ++ "+") := by
  cases h with
  | plain before after hbefore hafter =>
      have hcell : String.ofList (before ++ digits ++ after) ++ "+"
          = String.ofList (before ++ (digits ++ (after ++ ['+'])) ++ []) := by
        apply String.toList_inj.mp
        rw [String.toList_append, String.toList_ofList, String.toList_ofList,
          String.toList_ofList, List.append_nil, List.append_assoc, List.append_assoc before]
      rw [hcell]
      exact .plus before after [] hbefore hafter (List.forall_mem_nil _)

/-- A cell has a plus only where it marks the crossing of a page, and goes without it. -/
theorem cycleCell_erase_plus (digits : List Char) (hdigits : IsNumeral digits) (plus : Bool)
    (before after : String) (h : CycleCell digits plus (before ++ "+" ++ after)) :
    plus = true ∧ CycleCell digits false (before ++ after) := by
  have hdigit : '+' ∉ digits := fun hmem => absurd (hdigits.isDigit _ hmem) (by decide)
  have hblank : ∀ cs : List Char, (∀ c ∈ cs, Text.isBlank c = true) → '+' ∉ cs :=
    fun cs hcs hmem => absurd (hcs _ hmem) (by decide)
  have hlist : (before ++ "+" ++ after).toList = before.toList ++ '+' :: after.toList := by
    rw [String.toList_append, String.toList_append, show "+".toList = ['+'] from rfl,
      List.append_assoc, List.singleton_append]
  generalize hcell : before ++ "+" ++ after = cell at h hlist
  cases h with
  | plain start stop hstart hstop =>
      have hmem : '+' ∈ start ++ digits ++ stop := by
        rw [← String.toList_ofList (l := start ++ digits ++ stop), hlist]
        exact List.mem_append_right _ List.mem_cons_self
      rcases List.mem_append.mp hmem with hmem | hmem
      · rcases List.mem_append.mp hmem with hmem | hmem
        · exact absurd hmem (hblank start hstart)
        · exact absurd hmem hdigit
      · exact absurd hmem (hblank stop hstop)
  | plus start between stop hstart hbetween hstop =>
      have hlone : (start ++ digits ++ between) ++ '+' :: stop
          = before.toList ++ '+' :: after.toList := by
        rw [← hlist, String.toList_ofList]
        simp only [List.append_assoc, List.singleton_append]
      have hfront : '+' ∉ start ++ digits ++ between := by
        simp only [List.mem_append, not_or]
        exact ⟨⟨hblank start hstart, hdigit⟩, hblank between hbetween⟩
      -- There is one plus in the cell only, so what is around it is known.
      rcases (List.append_cons_inj_of_notMem hfront (hblank stop hstop)).mp hlone with
        ⟨hbefore, _, hafter⟩
      have hrest : before ++ after = String.ofList (start ++ digits ++ (between ++ stop)) := by
        apply String.toList_inj.mp
        rw [String.toList_append, ← hbefore, ← hafter, String.toList_ofList]
        simp only [List.append_assoc]
      rw [hrest]
      exact ⟨rfl, .plain start _ hstart (List.forall_mem_append.mpr ⟨hbetween, hstop⟩)⟩

section

variable (identifier label form opcode bytes cycles : String) (rest : List String)

theorem opcode_columns :
    Row.opcode identifier ⟨label :: form :: opcode :: bytes :: cycles :: rest⟩
      = match Row.opcodeOf? opcode.toList with
        | some v => .ok v
        | none => .error (.failure (.malformedRow identifier
            (label :: form :: opcode :: bytes :: cycles :: rest) (.badOpcode opcode))) :=
  rfl

theorem cycles_columns :
    Row.cycles identifier ⟨label :: form :: opcode :: bytes :: cycles :: rest⟩
      = match Row.cyclesOf? (Text.trim cycles.toList) with
        | some (ds, _) =>
          if Number.maxDigits < ds.length then .error (.defect .numberTooLong)
          else .ok (Number.foldDigits 10 0 ds)
        | none => .error (.failure (.malformedRow identifier
            (label :: form :: opcode :: bytes :: cycles :: rest)
            (.badCycles (String.ofList (Text.trim cycles.toList))))) := by
  simp only [Row.cycles, Row.cyclesText, Row.cell, bind, Except.bind, Except.map,
    List.getElem?_cons_succ, List.getElem?_cons_zero, String.toList_ofList]
  cases Row.cyclesOf? (Text.trim cycles.toList) <;> rfl

/-- A cell of the form is read as its number, unless the digits are too many. -/
theorem cycles_of_cycleCell (digits : List Char) (n : Nat) (plus : Bool)
    (hdenotes : Denotes digits n) (hcell : CycleCell digits plus cycles) :
    Row.cycles identifier ⟨label :: form :: opcode :: bytes :: cycles :: rest⟩
      = if Number.maxDigits < digits.length then .error (.defect .numberTooLong) else .ok n := by
  rcases (denotes_iff digits n).mp hdenotes with ⟨hdigits, rfl⟩
  rw [cycles_columns, cyclesOf?_of_cycleCell digits hdigits plus cycles hcell]
  simp only [length_filterMap_digitValue? digits hdigits]

/-- A cell that does not have the form is reported. -/
theorem cycles_of_not_cycleCell
    (h : ¬∃ digits n plus, Denotes digits n ∧ CycleCell digits plus cycles) :
    Row.cycles identifier ⟨label :: form :: opcode :: bytes :: cycles :: rest⟩
      = .error (.failure (.malformedRow identifier
        (label :: form :: opcode :: bytes :: cycles :: rest)
        (.badCycles (String.ofList (Text.trim cycles.toList))))) := by
  rw [cycles_columns]
  cases hfield : Row.cyclesOf? (Text.trim cycles.toList) with
  | none => rfl
  | some field =>
      rcases cycleCell_of_cyclesOf? cycles field.1 field.2 hfield with
        ⟨digits, hdigits, _, hcell⟩
      exact absurd ⟨digits, _, field.2, (denotes_iff digits _).mpr ⟨hdigits, rfl⟩, hcell⟩ h

theorem cycles_ok_iff (n : Nat) :
    Row.cycles identifier ⟨label :: form :: opcode :: bytes :: cycles :: rest⟩ = .ok n ↔
      ∃ digits plus, Denotes digits n ∧ digits.length ≤ Number.maxDigits ∧
        CycleCell digits plus cycles := by
  constructor
  · intro h
    by_cases hform : ∃ digits m plus, Denotes digits m ∧ CycleCell digits plus cycles
    · rcases hform with ⟨digits, m, plus, hdenotes, hcell⟩
      rw [cycles_of_cycleCell _ _ _ _ _ _ _ digits m plus hdenotes hcell] at h
      split at h
      · exact absurd h (by simp only [reduceCtorEq, not_false_eq_true])
      · rename_i hlen
        rw [Except.ok.inj h] at hdenotes
        exact ⟨digits, plus, hdenotes, Nat.le_of_not_lt hlen, hcell⟩
    · rw [cycles_of_not_cycleCell _ _ _ _ _ _ _ hform] at h
      exact absurd h (by simp only [reduceCtorEq, not_false_eq_true])
  · rintro ⟨digits, plus, hdenotes, hlen, hcell⟩
    rw [cycles_of_cycleCell _ _ _ _ _ _ _ digits n plus hdenotes hcell,
      if_neg (Nat.not_lt.mpr hlen)]

theorem cycles_tooLong_iff :
    Row.cycles identifier ⟨label :: form :: opcode :: bytes :: cycles :: rest⟩
        = .error (.defect .numberTooLong) ↔
      ∃ digits n plus, Denotes digits n ∧ Number.maxDigits < digits.length ∧
        CycleCell digits plus cycles := by
  constructor
  · intro h
    by_cases hform : ∃ digits m plus, Denotes digits m ∧ CycleCell digits plus cycles
    · rcases hform with ⟨digits, m, plus, hdenotes, hcell⟩
      rw [cycles_of_cycleCell _ _ _ _ _ _ _ digits m plus hdenotes hcell] at h
      split at h
      · exact ⟨digits, m, plus, hdenotes, ‹_›, hcell⟩
      · exact absurd h (by simp only [reduceCtorEq, not_false_eq_true])
    · rw [cycles_of_not_cycleCell _ _ _ _ _ _ _ hform, Except.error.injEq] at h
      exact absurd h (by simp only [reduceCtorEq, not_false_eq_true])
  · rintro ⟨digits, n, plus, hdenotes, hlen, hcell⟩
    rw [cycles_of_cycleCell _ _ _ _ _ _ _ digits n plus hdenotes hcell, if_pos hlen]

theorem cycles_malformed_iff :
    Row.cycles identifier ⟨label :: form :: opcode :: bytes :: cycles :: rest⟩
        = .error (.failure (.malformedRow identifier
          (label :: form :: opcode :: bytes :: cycles :: rest)
          (.badCycles (String.ofList (Text.trim cycles.toList))))) ↔
      ¬∃ digits n plus, Denotes digits n ∧ CycleCell digits plus cycles := by
  refine ⟨?_, cycles_of_not_cycleCell identifier label form opcode bytes cycles rest⟩
  rintro h ⟨digits, n, plus, hdenotes, hcell⟩
  rw [cycles_of_cycleCell _ _ _ _ _ _ _ digits n plus hdenotes hcell] at h
  split at h
  · rw [Except.error.injEq] at h
    exact absurd h (by simp only [reduceCtorEq, not_false_eq_true])
  · exact absurd h (by simp only [reduceCtorEq, not_false_eq_true])

/-- The mark for the crossing of a page is the plus of the cell. -/
theorem pageCross_of_cycleCell (digits : List Char) (n : Nat) (plus : Bool)
    (hdenotes : Denotes digits n) (hcell : CycleCell digits plus cycles) :
    Row.pageCross ⟨label :: form :: opcode :: bytes :: cycles :: rest⟩ = .ok plus := by
  have hfield := cyclesOf?_of_cycleCell digits ((denotes_iff digits n).mp hdenotes).1 plus
    cycles hcell
  simp only [Row.pageCross, Row.cyclesText, Row.cell, Except.map, List.getElem?_cons_succ,
    List.getElem?_cons_zero, String.toList_ofList, Row.getLast?_of_cyclesOf? _ _ plus hfield]

theorem opcode_ok_iff (v : Nat) :
    Row.opcode identifier ⟨label :: form :: opcode :: bytes :: cycles :: rest⟩ = .ok v ↔
      OpcodeCell opcode v := by
  rw [opcode_columns, ← opcodeOf?_eq_some_iff]
  cases Row.opcodeOf? opcode.toList <;> simp

theorem opcode_malformed_iff :
    Row.opcode identifier ⟨label :: form :: opcode :: bytes :: cycles :: rest⟩
        = .error (.failure (.malformedRow identifier
          (label :: form :: opcode :: bytes :: cycles :: rest) (.badOpcode opcode))) ↔
      ¬∃ v, OpcodeCell opcode v := by
  simp only [opcode_columns, ← opcodeOf?_eq_some_iff]
  cases Row.opcodeOf? opcode.toList <;> simp

end

/-- What becomes of the fields of any row with all columns. The opcode is read exactly if its
    cell has the form and is reported otherwise. The cycles are read exactly if their cell has
    the form and not too many digits; without the form the cell is reported, and with too many
    digits it stops the run. Where the cycles are read, crossing a page costs more exactly if
    the cell has the plus. A plus that is put behind a cell without one, or taken out of a cell
    with one, changes that and leaves the number as it is. -/
theorem fields_read (identifier label form opcode bytes cycles : String) (rest : List String) :
    let row := fun cell : String => Row.mk (label :: form :: opcode :: bytes :: cell :: rest)
    (∀ v, (row cycles).opcode identifier = .ok v ↔ OpcodeCell opcode v) ∧
    ((row cycles).opcode identifier = .error (.failure (.malformedRow identifier
        (row cycles).cells (.badOpcode opcode))) ↔ ¬∃ v, OpcodeCell opcode v) ∧
    (∀ n, (row cycles).cycles identifier = .ok n ↔ ∃ digits plus,
      Denotes digits n ∧ digits.length ≤ Number.maxDigits ∧ CycleCell digits plus cycles) ∧
    ((row cycles).cycles identifier = .error (.failure (.malformedRow identifier
        (row cycles).cells (.badCycles (String.ofList (Text.trim cycles.toList))))) ↔
      ¬∃ digits n plus, Denotes digits n ∧ CycleCell digits plus cycles) ∧
    ((row cycles).cycles identifier = .error (.defect .numberTooLong) ↔ ∃ digits n plus,
      Denotes digits n ∧ Number.maxDigits < digits.length ∧ CycleCell digits plus cycles) ∧
    ∀ n, (row cycles).cycles identifier = .ok n →
      (∀ plus, (row cycles).pageCross = .ok plus ↔
        ∃ digits, Denotes digits n ∧ CycleCell digits plus cycles) ∧
      ((row cycles).pageCross = .ok false →
        (row (cycles ++ "+")).cycles identifier = .ok n ∧
          (row (cycles ++ "+")).pageCross = .ok true) ∧
      ∀ before after, cycles = before ++ "+" ++ after →
        (row cycles).pageCross = .ok true ∧
          (row (before ++ after)).cycles identifier = .ok n ∧
          (row (before ++ after)).pageCross = .ok false := by
  intro row
  refine ⟨opcode_ok_iff identifier label form opcode bytes cycles rest,
    opcode_malformed_iff identifier label form opcode bytes cycles rest,
    cycles_ok_iff identifier label form opcode bytes cycles rest,
    cycles_malformed_iff identifier label form opcode bytes cycles rest,
    cycles_tooLong_iff identifier label form opcode bytes cycles rest, ?_⟩
  intro n hn
  rcases (cycles_ok_iff _ _ _ _ _ _ _ n).mp hn with ⟨digits, plus, hdenotes, hlen, hcell⟩
  have hcross := pageCross_of_cycleCell label form opcode bytes cycles rest digits n plus
    hdenotes hcell
  -- Any other cell for the same digits is read as the same number, and crosses as it says.
  have hother : ∀ plus' cell, CycleCell digits plus' cell →
      (row cell).cycles identifier = .ok n ∧ (row cell).pageCross = .ok plus' :=
    fun plus' cell h => ⟨(cycles_ok_iff _ _ _ _ _ _ _ n).mpr ⟨digits, plus', hdenotes, hlen, h⟩,
      pageCross_of_cycleCell _ _ _ _ _ _ digits n plus' hdenotes h⟩
  refine ⟨fun plus' => ⟨fun h => ?_, ?_⟩, fun h => ?_, fun before after h => ?_⟩
  · rw [← Except.ok.inj (hcross.symm.trans h)]
    exact ⟨digits, hdenotes, hcell⟩
  · rintro ⟨digits', hdenotes', hcell'⟩
    exact pageCross_of_cycleCell _ _ _ _ _ _ digits' n plus' hdenotes' hcell'
  · have hplus : plus = false := Except.ok.inj (hcross.symm.trans h)
    rw [hplus] at hcell
    exact hother true _ (cycleCell_append_plus digits cycles hcell)
  · rw [h] at hcell
    rcases cycleCell_erase_plus digits ((denotes_iff digits n).mp hdenotes).1 plus before after
      hcell with ⟨hplus, herased⟩
    rw [hplus] at hcross
    exact ⟨hcross, hother false _ herased⟩

/-- Digits of another script, blanks before the plus, and the plus taken out. -/
theorem fields_read_arabic :
    let row := fun cell : String => Row.mk ["Immediate", "LDA #", "$aF", "2", cell]
    (row " ٤٢ +").opcode "LDA" = .ok 0xAF ∧ (row " ٤٢ +").cycles "LDA" = .ok 42 ∧
      (row " ٤٢ +").pageCross = .ok true ∧ (row " ٤٢ ").cycles "LDA" = .ok 42 ∧
      (row " ٤٢ ").pageCross = .ok false := by
  intro row
  rcases fields_read "LDA" "Immediate" "LDA #" "$aF" "2" " ٤٢ +" [] with
    ⟨hopcode, _, hcycles, _, _, hplus⟩
  have hvalue : OpcodeCell "$aF" 0xAF := .digits '$' 'a' 'F' 10 15 (by decide) (by decide)
  have hdigits : Denotes ['٤', '٢'] 42 :=
    ⟨by decide, [4, 2], .cons ⟨by decide, 0x660, by decide, rfl⟩
      (.cons ⟨by decide, 0x660, by decide, rfl⟩ .nil), rfl⟩
  have hspace : ∀ c ∈ [' '], Text.isBlank c = true := List.forall_mem_singleton.mpr (by decide)
  have hcell : CycleCell ['٤', '٢'] true " ٤٢ +" :=
    .plus [' '] [' '] [] hspace hspace (List.forall_mem_nil _)
  have hread := (hcycles 42).mpr ⟨_, _, hdigits, by decide, hcell⟩
  rcases hplus 42 hread with ⟨_, _, herased⟩
  exact ⟨(hopcode 0xAF).mpr hvalue, hread, herased " ٤٢ " "" rfl⟩

end Opcode

end OpcodeForge
