import Mathlib.Algebra.Group.Nat.Defs
import Mathlib.Data.List.TakeWhile
import OpcodeForge.Opcode.Builder

/-!
# Declarations

What a row of a specification declares, said by its columns and not by the order in
which the builder asks for them. A row declares an entry when it has five columns, the
label is that of an enabled mode, and the fields of the opcode and the cycles have
their form. Otherwise it has exactly one fault, and of several faults the first in
this order counts.

Reading a row can also stop the whole run: a cycle field may have the right form and
still be too long to be read (`Overlong`). That is a matter of the number alone, and
`entryOf_eq` says that it is the only way in which reading differs from `declaration`.

The source of a declared entry ends in a parenthesis and the name of the reference
does not. So no declaration is ever taken for a default, which is what the builder
relies on when it tells the two apart by their sources.

## Main definitions

* `Row.HasReadableCycles`: The cycle field is not too long to be read.
* `declaration`: What a row declares, or what is wrong with it.
* `Declares`: A row that declares an entry.
* `Overlong`: A row that only its cycles keep from declaring one.

## Theorems

* `hexValue?_lt`: A hexadecimal digit is worth less than sixteen.
* `Row.opcodeOf?_lt`: An opcode is a byte.
* `Row.getLast?_of_cyclesOf?`: The plus of a cycle field is its last character.
* `declaration_eq_ok_iff`: The declaration of a row is what the row declares.
* `entryOf_eq`: Reading a row gives its declaration.
* `entryOf_eq_ok_iff`, `entryOf_eq_defect_iff`: When reading a row gives an entry, and when
  it stops the run.
* `not_isDefault_of_declares`: A declared entry is no default.
* `instruction_of_declares`: A declared entry calls the body of its instruction.
* `opcode_of_declares`: A declared entry has the opcode of a slot.
* `mode_of_declares`, `isWritable_of_declares`: A declared entry can be rendered.
-/

namespace OpcodeForge

theorem Text.hexValue?_lt (c : Char) (d : Nat) (h : hexValue? c = some d) : d < 16 := by
  unfold hexValue? at h
  simp only [Char.isDigit, Bool.and_eq_true, decide_eq_true_eq, Char.le_def,
    UInt32.le_iff_toNat_le] at h
  split at h
  · rename_i hc
    have hd : c.toNat - 48 = d := Option.some.inj h
    have hle : c.toNat ≤ 57 := hc.2
    omega
  · split at h
    · rename_i hc
      have hd : c.toNat - 87 = d := Option.some.inj h
      have hle : c.toNat ≤ 102 := hc.2
      omega
    · split at h
      · rename_i hc
        have hd : c.toNat - 55 = d := Option.some.inj h
        have hle : c.toNat ≤ 70 := hc.2
        omega
      · exact absurd h (by simp only [reduceCtorEq, not_false_eq_true])

/-- A number is below the power of its base that has one digit more. -/
theorem Number.foldDigits_lt (base : Nat) (ds : List Nat) (h : ∀ d ∈ ds, d < base) :
    ∀ n, foldDigits base n ds < (n + 1) * base ^ ds.length := by
  induction ds with
  | nil =>
      intro n
      rw [List.length_nil, Nat.pow_zero, Nat.mul_one]
      exact Nat.lt_succ_self n
  | cons d rest ih =>
      intro n
      have hd : d < base := h d List.mem_cons_self
      have hrest := ih (fun e he => h e (List.mem_cons_of_mem d he)) (n * base + d)
      have hle : n * base + d + 1 ≤ (n + 1) * base := by
        rw [Nat.succ_mul]
        omega
      calc foldDigits base n (d :: rest) = foldDigits base (n * base + d) rest := rfl
        _ < (n * base + d + 1) * base ^ rest.length := hrest
        _ ≤ (n + 1) * base * base ^ rest.length := Nat.mul_le_mul_right _ hle
        _ = (n + 1) * base ^ (d :: rest).length := by
            rw [List.length_cons, Nat.pow_succ, Nat.mul_assoc, Nat.mul_comm base]

namespace Opcode

open Addressing (Registry Capability)
open Specification (Instruction)

namespace Row

/-- Two hexadecimal digits make a byte, so a declared opcode always has a slot. -/
theorem opcodeOf?_lt (cell : List Char) (n : Nat) (h : opcodeOf? cell = some n) :
    n < opcodeSpace := by
  unfold opcodeOf? at h
  split at h
  · split at h
    · rename_i hi lo hhi hlo
      have hd : hi * 16 + lo = n := Option.some.inj h
      have h1 := Text.hexValue?_lt _ _ hhi
      have h2 := Text.hexValue?_lt _ _ hlo
      unfold opcodeSpace
      omega
    · exact absurd h (by simp only [reduceCtorEq, not_false_eq_true])
  · exact absurd h (by simp only [reduceCtorEq, not_false_eq_true])

/-- Whether a cycle field that has the right form is short enough to be read. -/
def HasReadableCycles (r : Row) : Prop :=
  ∀ s ∈ r.cells[4]?, ∀ field ∈ cyclesOf? (Text.trim s.toList),
    field.1.length ≤ Number.maxDigits

instance (r : Row) : Decidable r.HasReadableCycles :=
  inferInstanceAs (Decidable (∀ s ∈ r.cells[4]?, ∀ field ∈ cyclesOf? (Text.trim s.toList),
    field.1.length ≤ Number.maxDigits))

/-- A plus is neither a digit nor a blank, so it is the last character of a field
    exactly when the form has one. -/
theorem getLast?_of_cyclesOf? (text : List Char) (digits : List Nat) (plus : Bool)
    (h : cyclesOf? text = some (digits, plus)) :
    (text.getLast? == some '+') = plus := by
  have hsplit : text = text.takeWhile Text.isDigit
      ++ ((text.dropWhile Text.isDigit).takeWhile Text.isBlank
        ++ (text.dropWhile Text.isDigit).dropWhile Text.isBlank) := by
    rw [List.takeWhile_append_dropWhile, List.takeWhile_append_dropWhile]
  unfold cyclesOf? at h
  simp only [] at h
  split at h
  · exact absurd h (by simp only [reduceCtorEq, not_false_eq_true])
  · split at h
    · rename_i hrest
      have hplus : false = plus := (Prod.mk.inj (Option.some.inj h)).2
      rw [hrest, List.append_nil] at hsplit
      rw [← hplus, beq_eq_false_iff_ne]
      intro hlast
      have hmem : '+' ∈ text := List.mem_of_getLast? hlast
      rw [hsplit] at hmem
      -- The text has nothing but digits and blanks.
      rcases List.mem_append.mp hmem with hm | hm
      · exact absurd (List.mem_takeWhile_imp hm) (by decide)
      · exact absurd (List.mem_takeWhile_imp hm) (by decide)
    · split at h
      · rename_i hrest
        have hplus : true = plus := (Prod.mk.inj (Option.some.inj h)).2
        rw [hrest, ← List.append_assoc] at hsplit
        rw [← hplus, hsplit, List.getLast?_concat]
        rfl
      · exact absurd h (by simp only [reduceCtorEq, not_false_eq_true])

/-- The digits of a cycle field are decimal ones. -/
theorem lt_of_mem_cyclesOf? (text : List Char) (digits : List Nat) (plus : Bool)
    (h : cyclesOf? text = some (digits, plus)) : ∀ d ∈ digits, d < 10 := by
  have hdigits : (text.takeWhile Text.isDigit).filterMap Text.digitValue? = digits := by
    unfold cyclesOf? at h
    simp only [] at h
    split at h
    · exact absurd h (by simp only [reduceCtorEq, not_false_eq_true])
    · split at h
      · exact (Prod.mk.inj (Option.some.inj h)).1
      · split at h
        · exact (Prod.mk.inj (Option.some.inj h)).1
        · exact absurd h (by simp only [reduceCtorEq, not_false_eq_true])
  intro d hd
  rw [← hdigits] at hd
  rcases List.mem_filterMap.mp hd with ⟨c, _, hc⟩
  exact Text.digitValue?_lt c d hc

end Row

/-- The entry that the columns of a row make. -/
def Entry.ofColumns (i : Instruction) (label : String) (mode : Capability) (opcode : Nat)
    (digits : List Nat) (plus : Bool) : Entry where
  opcode := opcode
  mode := mode.code
  instruction := i.identifier
  cycles := .count (Number.foldDigits 10 0 digits)
  pageCross := plus
  additionalCodes := i.additionalCodes
  source := i.identifier ++ " (" ++ label ++ ")"

/-- What a row of an instruction declares, or what is wrong with it. -/
def declaration (registry : Registry) (i : Instruction) (r : Row) : Except Failure Entry :=
  match r.cells with
  | label :: _ :: opcode :: _ :: cycles :: _ =>
    let text := Text.trim cycles.toList
    match registry.enabledLabel? label, Row.opcodeOf? opcode.toList, Row.cyclesOf? text with
    | some mode, some n, some (digits, plus) => .ok (.ofColumns i label mode n digits plus)
    -- From here on the columns are in the order in which their faults count.
    | none, _, _ =>
      .error (.unsupportedMode i.identifier label
        (String.ofList (Row.opcodePart opcode)))
    | _, none, _ => .error (.malformedRow i.identifier r.cells (.badOpcode opcode))
    | _, _, none =>
      .error (.malformedRow i.identifier r.cells (.badCycles (String.ofList text)))
  | _ => .error (.malformedRow i.identifier r.cells (.tooShort r.cells.length))

/-- A row that declares an entry: it has five columns or more, its label is that of an
    enabled mode, and both fields have their form. -/
inductive Declares (registry : Registry) (i : Instruction) : Row → Entry → Prop
  | columns (label form opcode bytes cycles : String) (rest : List String)
      (mode : Capability) (n : Nat) (digits : List Nat) (plus : Bool)
      (hmode : registry.enabledLabel? label = some mode)
      (hopcode : Row.opcodeOf? opcode.toList = some n)
      (hcycles : Row.cyclesOf? (Text.trim cycles.toList) = some (digits, plus)) :
      Declares registry i ⟨label :: form :: opcode :: bytes :: cycles :: rest⟩
        (.ofColumns i label mode n digits plus)

theorem declaration_eq_ok_iff (registry : Registry) (i : Instruction) (r : Row)
    (e : Entry) : declaration registry i r = .ok e ↔ Declares registry i r e := by
  constructor
  · intro h
    rcases r with ⟨cells⟩
    unfold declaration at h
    split at h
    · rename_i label form opcode bytes cycles rest hcells
      have hc : cells = label :: form :: opcode :: bytes :: cycles :: rest := hcells
      simp only [] at h
      split at h
      · rename_i mode n digits plus hmode hopcode hcycles
        rw [← Except.ok.inj h, hc]
        exact .columns label form opcode bytes cycles rest mode n digits plus
          hmode hopcode hcycles
      all_goals exact absurd h (by simp only [reduceCtorEq, not_false_eq_true])
    · exact absurd h (by simp only [reduceCtorEq, not_false_eq_true])
  · intro h
    cases h with
    | columns label form opcode bytes cycles rest mode n digits plus hmode hopcode hcycles =>
        simp only [declaration, hmode, hopcode, hcycles]

/-- A row that would declare an entry if its cycles were not too many digits. -/
def Overlong (registry : Registry) (i : Instruction) (r : Row) : Prop :=
  (∃ e, Declares registry i r e) ∧ ¬r.HasReadableCycles

theorem checkShape_columns (identifier label form opcode bytes cycles : String)
    (rest : List String) :
    Row.checkShape identifier ⟨label :: form :: opcode :: bytes :: cycles :: rest⟩ = .ok () := by
  unfold Row.checkShape
  rw [if_neg (by simp only [List.length_cons, minColumns]; omega)]

/-- Reading a row gives its declaration, unless only its cycles keep it from one. -/
theorem entryOf_eq (registry : Registry) (i : Instruction) (r : Row)
    (hr : ¬Overlong registry i r) :
    Builder.entryOf registry i r = Builder.orHalt (declaration registry i r) := by
  rcases r with ⟨cells⟩
  rcases cells with _ | ⟨label, _ | ⟨form, _ | ⟨opcode, _ | ⟨bytes, _ | ⟨cycles, rest⟩⟩⟩⟩⟩
  -- Five columns are the least, so the shorter rows fail at once.
  iterate 5 rfl
  unfold Builder.entryOf declaration
  rw [checkShape_columns]
  simp only [Row.label, Row.opcodeText, Row.opcode, Row.cycles, Row.pageCross,
    Row.cyclesText, Row.cell, Registry.resolve, bind, Except.bind, pure, Except.pure,
    Except.map, List.getElem?_cons_succ, List.getElem?_cons_zero, String.toList_ofList]
  cases hmode : registry.enabledLabel? label with
  | none => rfl
  | some mode =>
      cases hopcode : Row.opcodeOf? opcode.toList with
      | none => rfl
      | some n =>
          cases hcycles : Row.cyclesOf? (Text.trim cycles.toList) with
          | none => rfl
          | some field =>
              rcases field with ⟨digits, plus⟩
              have hlen : digits.length ≤ Number.maxDigits := by
                by_contra hlong
                refine hr ⟨⟨_, .columns label form opcode bytes cycles rest mode n digits plus
                  hmode hopcode hcycles⟩, fun hread => hlong ?_⟩
                exact hread cycles rfl (digits, plus) hcycles
              have hlast := Row.getLast?_of_cyclesOf? _ _ _ hcycles
              simp only [Builder.orHalt]
              rw [if_neg (Nat.not_lt.mpr hlen), hlast]
              rfl

/-- A row whose cycles are too many digits has no report. -/
theorem entryOf_of_overlong (registry : Registry) (i : Instruction) (r : Row)
    (hr : Overlong registry i r) :
    Builder.entryOf registry i r = .error (.defect .numberTooLong) := by
  rcases hr with ⟨⟨e, hdec⟩, hlong⟩
  cases hdec with
  | columns label form opcode bytes cycles rest mode n digits plus hmode hopcode hcycles =>
      have hlen : Number.maxDigits < digits.length := by
        by_contra hle
        refine hlong fun s hs field hfield => ?_
        rw [← show cycles = s from Option.some.inj hs, hcycles] at hfield
        rw [← Option.some.inj hfield]
        exact Nat.le_of_not_lt hle
      unfold Builder.entryOf
      rw [checkShape_columns]
      simp only [Row.label, Row.opcodeText, Row.opcode, Row.cycles, Row.cyclesText, Row.cell,
        Registry.resolve, bind, Except.bind, Except.map, List.getElem?_cons_succ,
        List.getElem?_cons_zero, String.toList_ofList, hmode, hopcode, hcycles, Builder.orHalt,
        if_pos hlen]

theorem entryOf_eq_ok_iff (registry : Registry) (i : Instruction) (r : Row) (e : Entry) :
    Builder.entryOf registry i r = .ok e ↔ Declares registry i r e ∧ r.HasReadableCycles := by
  by_cases hr : Overlong registry i r
  · simp only [entryOf_of_overlong registry i r hr, reduceCtorEq, hr.2, and_false]
  · rw [entryOf_eq registry i r hr, ← declaration_eq_ok_iff]
    cases hdec : declaration registry i r with
    | error f => simp only [Builder.orHalt, reduceCtorEq, false_and]
    | ok e' =>
        have hread : r.HasReadableCycles := by
          by_contra hlong
          exact hr ⟨⟨e', (declaration_eq_ok_iff registry i r e').mp hdec⟩, hlong⟩
        simp only [Builder.orHalt, Except.ok.injEq, hread, and_true]

theorem entryOf_eq_defect_iff (registry : Registry) (i : Instruction) (r : Row) (x : Defect) :
    Builder.entryOf registry i r = .error (.defect x) ↔
      x = .numberTooLong ∧ Overlong registry i r := by
  by_cases hr : Overlong registry i r
  · simp only [entryOf_of_overlong registry i r hr, Except.error.injEq, Halt.defect.injEq,
      eq_comm, hr, and_true]
  · rw [entryOf_eq registry i r hr]
    cases declaration registry i r with
    | error f => simp only [Builder.orHalt, Except.error.injEq, reduceCtorEq, hr, and_false]
    | ok e => simp only [Builder.orHalt, reduceCtorEq, hr, and_false]

/-- The source of a declaration ends in a parenthesis, and the name of the reference
    does not. -/
theorem not_isDefault_of_declares (registry : Registry) (i : Instruction) (r : Row)
    (e : Entry) (h : Declares registry i r e) : e.isDefault = false := by
  cases h with
  | columns label form opcode bytes cycles rest mode n digits plus hmode hopcode hcycles =>
      unfold Entry.isDefault
      rw [beq_eq_false_iff_ne]
      intro hsource
      have hlast := congrArg (fun s : String => s.toList.getLast?) hsource
      simp only [Entry.ofColumns, String.toList_append] at hlast
      rw [show (")" : String).toList = [')'] by rfl, List.getLast?_concat] at hlast
      exact absurd hlast (by decide)

/-- A declared number of cycles that could be read can be written. -/
theorem isWritable_of_declares (registry : Registry) (i : Instruction) (r : Row)
    (e : Entry) (h : Declares registry i r e) (hr : r.HasReadableCycles) :
    e.cycles.isWritable = true := by
  cases h with
  | columns label form opcode bytes cycles rest mode n digits plus hmode hopcode hcycles =>
      have hlen := hr cycles rfl (digits, plus) hcycles
      have hlt := Number.foldDigits_lt 10 digits
        (Row.lt_of_mem_cyclesOf? _ digits plus hcycles) 0
      rw [Nat.zero_add, Nat.one_mul] at hlt
      change Number.isWritable (Number.foldDigits 10 0 digits : Nat) = true
      unfold Number.isWritable
      rw [decide_eq_true_eq, Int.natAbs_natCast]
      exact Nat.lt_of_lt_of_le hlt (Nat.pow_le_pow_right (by decide) hlen)

/-- The mode of a declaration is enabled. -/
theorem mode_of_declares (registry : Registry) (i : Instruction) (r : Row)
    (e : Entry) (h : Declares registry i r e) :
    ∃ label c, registry.enabledLabel? label = some c ∧ e.mode = c.code := by
  cases h with
  | columns label form opcode bytes cycles rest mode n digits plus hmode hopcode hcycles =>
      exact ⟨label, mode, hmode, rfl⟩

/-- A declaration calls the body of its own instruction. -/
theorem instruction_of_declares (registry : Registry) (i : Instruction) (r : Row)
    (e : Entry) (h : Declares registry i r e) : e.instruction = i.identifier := by
  cases h with
  | columns label form opcode bytes cycles rest mode n digits plus hmode hopcode hcycles => rfl

/-- The opcode of a declaration is a byte. -/
theorem opcode_of_declares (registry : Registry) (i : Instruction) (r : Row)
    (e : Entry) (h : Declares registry i r e) :
    ∃ k : Fin opcodeSpace, e.opcode = k.val := by
  cases h with
  | columns label form opcode bytes cycles rest mode n digits plus hmode hopcode hcycles =>
      exact ⟨⟨n, Row.opcodeOf?_lt _ _ hopcode⟩, rfl⟩

end Opcode

end OpcodeForge
