import OpcodeForge.Proofs.Opcode.Declaration
import OpcodeForge.Proofs.Text.Digit

/-!
# What Columns Say

A row says a label, an opcode, a number of cycles, and whether crossing a page costs more. There
are many ways to say the same. The digits of the opcode have two cases, the character before them
is any one, blanks may stand around the cycles and before the plus, and nothing at all is said by
the columns of the syntax and of the bytes and by those after the fifth.

Both fields are read from the left, so what matters of a blank is where it can stand. It is no
digit (`Text.isBlank_of_isDigit`), in any script, so the blanks before a plus end the digits.

## Main definitions

* `Row.Says`: What a row says, read column by column.
* `Row.SaysAlike`: Two rows that say the same, but for crossing pages.
* `CycleCell`: The cells for some digits, with and without a plus.

## Theorems

* `cyclesOf?_of_cycleCell`: A cell for some digits is read as these digits.
* `says_of_columns`: A row with readable columns says what stands in them.
* `saysAlike_of_columns`: The ways to say the same.
-/

namespace OpcodeForge

namespace Opcode

/-- What a row of an instruction says, read column by column. -/
structure Row.Says (identifier : String) (r : Row) (label : String) (opcode cycles : Nat)
    (crosses : Bool) : Prop where
  shape : r.checkShape identifier = .ok ()
  label : r.label = .ok label
  opcode : r.opcode identifier = .ok opcode
  cycles : r.cycles identifier = .ok cycles
  crosses : r.pageCross = .ok crosses

/-- Two rows that say the same, but for crossing pages. -/
def Row.SaysAlike (identifier : String) (r r' : Row) : Prop :=
  ∃ label opcode cycles crosses crosses', r.Says identifier label opcode cycles crosses ∧
    r'.Says identifier label opcode cycles crosses'

/-- The cells for some digits: blanks around them, and behind them a plus if crossing a page
    costs more. -/
inductive CycleCell (digits : List Char) : Bool → String → Prop
  | plain (before after : List Char) (hbefore : ∀ c ∈ before, Text.isBlank c = true)
      (hafter : ∀ c ∈ after, Text.isBlank c = true) :
      CycleCell digits false (String.ofList (before ++ digits ++ after))
  | plus (before between after : List Char) (hbefore : ∀ c ∈ before, Text.isBlank c = true)
      (hbetween : ∀ c ∈ between, Text.isBlank c = true)
      (hafter : ∀ c ∈ after, Text.isBlank c = true) :
      CycleCell digits true
        (String.ofList (before ++ (digits ++ (between ++ ['+'])) ++ after))

/-- A cell that is not empty and has nothing but digits. -/
structure IsNumeral (digits : List Char) : Prop where
  ne_nil : digits ≠ []
  isDigit : ∀ c ∈ digits, Text.isDigit c = true

section

variable (digits : List Char) (hdigits : IsNumeral digits)

include hdigits

theorem filterMap_digitValue?_ne_nil : digits.filterMap Text.digitValue? ≠ [] := by
  rcases List.exists_cons_of_ne_nil hdigits.ne_nil with ⟨c, rest, rfl⟩
  rcases Option.isSome_iff_exists.mp (hdigits.isDigit c List.mem_cons_self) with ⟨d, hd⟩
  rw [List.filterMap_cons_some hd]
  exact List.cons_ne_nil _ _

theorem cyclesOf?_digits :
    Row.cyclesOf? digits = some (digits.filterMap Text.digitValue?, false) := by
  unfold Row.cyclesOf?
  simp only [List.takeWhile_eq_self_iff.mpr hdigits.isDigit,
    List.dropWhile_eq_nil_iff.mpr hdigits.isDigit, List.dropWhile_nil, List.isEmpty_iff,
    filterMap_digitValue?_ne_nil digits hdigits, if_true, if_false]

theorem cyclesOf?_digits_plus (between : List Char)
    (hbetween : ∀ c ∈ between, Text.isBlank c = true) :
    Row.cyclesOf? (digits ++ (between ++ ['+']))
      = some (digits.filterMap Text.digitValue?, true) := by
  -- Whether it is a blank or the plus, what follows the digits is none.
  have hhead : ∃ c rest, between ++ ['+'] = c :: rest ∧ ¬Text.isDigit c = true := by
    cases between with
    | nil => exact ⟨'+', [], rfl, by decide⟩
    | cons c rest =>
        refine ⟨c, rest ++ ['+'], rfl, fun hc => ?_⟩
        have hblank := hbetween c List.mem_cons_self
        rw [Text.isBlank_of_isDigit c hc] at hblank
        exact absurd hblank (by decide)
  have hplus : (between ++ ['+']).dropWhile Text.isBlank = ['+'] := by
    rw [List.dropWhile_append_of_pos hbetween]
    rfl
  rcases hhead with ⟨c, rest, hcons, hc⟩
  unfold Row.cyclesOf?
  simp only [List.takeWhile_append_of_pos hdigits.isDigit,
    List.dropWhile_append_of_pos hdigits.isDigit]
  rw [hcons] at hplus ⊢
  simp only [List.takeWhile_cons_of_neg hc, List.dropWhile_cons_of_neg hc, hplus,
    List.append_nil, List.isEmpty_iff, filterMap_digitValue?_ne_nil digits hdigits, if_true,
    if_false, reduceCtorEq]

/-- A cell for some digits is read as these digits. -/
theorem cyclesOf?_of_cycleCell (plus : Bool) (cell : String)
    (h : CycleCell digits plus cell) :
    Row.cyclesOf? (Text.trim cell.toList)
      = some (digits.filterMap Text.digitValue?, plus) := by
  have hblank : ∀ c ∈ digits, Text.isBlank c = false := fun c hc =>
    Text.isBlank_of_isDigit c (hdigits.isDigit c hc)
  have hd : ∀ rest c, (digits ++ rest).head? = some c → Text.isBlank c = false := by
    intro rest c hc
    rcases List.exists_cons_of_ne_nil hdigits.ne_nil with ⟨d, ds, hcons⟩
    rw [hcons] at hc hblank
    rw [← Option.some.inj hc]
    exact hblank d List.mem_cons_self
  cases h with
  | plain before after hbefore hafter =>
      rw [String.toList_ofList, Text.trim_of_blanks before digits after hdigits.ne_nil hbefore
        hafter (fun c hc => hd [] c (by rwa [List.append_nil]))
        (fun c hc => hblank c (List.mem_of_getLast? hc))]
      exact cyclesOf?_digits digits hdigits
  | plus before between after hbefore hbetween hafter =>
      have hl : ∀ c, (digits ++ (between ++ ['+'])).getLast? = some c →
          Text.isBlank c = false := by
        intro c hc
        rw [← List.append_assoc, List.getLast?_concat] at hc
        rw [← Option.some.inj hc]
        decide
      rw [String.toList_ofList, Text.trim_of_blanks before _ after
        (List.append_ne_nil_of_left_ne_nil hdigits.ne_nil _) hbefore hafter (hd _) hl]
      exact cyclesOf?_digits_plus digits hdigits between hbetween

end

/-- A cell of an opcode may be written in the other case. -/
theorem opcodeOf?_congr (cell cell' : List Char)
    (h : cell'.map Char.toUpper = cell.map Char.toUpper) :
    Row.opcodeOf? cell' = Row.opcodeOf? cell := by
  have hupper : ∀ cs : List Char, Row.opcodeOf? (cs.map Char.toUpper) = Row.opcodeOf? cs := by
    intro cs
    rcases cs with _ | ⟨a, _ | ⟨b, _ | ⟨c, _ | ⟨d, rest⟩⟩⟩⟩
    iterate 3 rfl
    · simp only [List.map_cons, List.map_nil, Row.opcodeOf?, Text.hexValue?_toUpper]
    · rfl
  rw [← hupper cell', h, hupper]

/-- A row with readable columns says what stands in them. -/
theorem says_of_columns (identifier label form opcode bytes cycles : String)
    (rest : List String) (n : Nat) (digits : List Nat) (plus : Bool)
    (hopcode : Row.opcodeOf? opcode.toList = some n)
    (hcycles : Row.cyclesOf? (Text.trim cycles.toList) = some (digits, plus))
    (hlen : digits.length ≤ Number.maxDigits) :
    Row.Says identifier ⟨label :: form :: opcode :: bytes :: cycles :: rest⟩ label n
      (Number.foldDigits 10 0 digits) plus where
  shape := checkShape_columns identifier label form opcode bytes cycles rest
  label := rfl
  opcode := by
    simp only [Row.opcode, Row.cell, bind, Except.bind, List.getElem?_cons_succ,
      List.getElem?_cons_zero, hopcode]
  cycles := by
    simp only [Row.cycles, Row.cyclesText, Row.cell, bind, Except.bind, Except.map,
      List.getElem?_cons_succ, List.getElem?_cons_zero, String.toList_ofList, hcycles,
      if_neg (Nat.not_lt.mpr hlen)]
  crosses := by
    simp only [Row.pageCross, Row.cyclesText, Row.cell, Except.map, List.getElem?_cons_succ,
      List.getElem?_cons_zero, String.toList_ofList,
      Row.getLast?_of_cyclesOf? _ digits plus hcycles]

/-- The ways to say the same: the digits of the opcode in the other case, other blanks around
    the cycles, a plus that comes or goes, and anything in the other columns. -/
theorem saysAlike_of_columns (identifier label form form' opcode opcode' bytes bytes' : String)
    (cycles cycles' : String) (rest rest' : List String) (n : Nat) (digits : List Char)
    (plus plus' : Bool) (hopcode : Row.opcodeOf? opcode.toList = some n)
    (hcase : opcode'.toList.map Char.toUpper = opcode.toList.map Char.toUpper)
    (hdigits : IsNumeral digits) (hlen : digits.length ≤ Number.maxDigits)
    (hcycles : CycleCell digits plus cycles) (hcycles' : CycleCell digits plus' cycles') :
    Row.SaysAlike identifier ⟨label :: form :: opcode :: bytes :: cycles :: rest⟩
      ⟨label :: form' :: opcode' :: bytes' :: cycles' :: rest'⟩ := by
  have hle : (digits.filterMap Text.digitValue?).length ≤ Number.maxDigits :=
    Nat.le_trans (List.length_filterMap_le _ _) hlen
  refine ⟨label, n, Number.foldDigits 10 0 (digits.filterMap Text.digitValue?), plus, plus',
    ?_, ?_⟩
  · exact says_of_columns identifier label form opcode bytes cycles rest n _ plus hopcode
      (cyclesOf?_of_cycleCell digits hdigits plus cycles hcycles) hle
  · exact says_of_columns identifier label form' opcode' bytes' cycles' rest' n _ plus'
      (by rw [opcodeOf?_congr _ _ hcase, hopcode])
      (cyclesOf?_of_cycleCell digits hdigits plus' cycles' hcycles') hle

end Opcode

end OpcodeForge
