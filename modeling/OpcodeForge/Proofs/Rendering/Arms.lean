import OpcodeForge.Proofs.Number.Decimal
import OpcodeForge.Proofs.Rendering.KeyOrder
import OpcodeForge.Proofs.Text.Marks
import OpcodeForge.Proofs.Text.Pieces

/-!
# Reading the Dispatch Back

An arm ends with the additional code of its entry, which is copied as it is and may go over many
lines. It may look like the end of the arm, the start of the next one, or the arm for all other
opcodes. So arms cannot be told apart by where they start and end. But each of them has the name
of the call that sets the cycles, once, between its key and its cycles. If no part of an entry
has this name in it, then the output can be cut at the names, and there is one for each entry
(`toList_dispatch`).

What stands between two of these names is the rest of one arm and the start of the next one. The
start has the same length for all keys, so the two can be told apart from the end
(`append_armHead_inj`). In the rest of an arm the cycles end with a comma and the mode and the
name end with their lines, and all that is left but a fixed end is additional code
(`armRest_inj`).

## Main definitions

* `Rendering.armMark`: The name of the call that sets the cycles.
* `Rendering.armHead`, `Rendering.armRest`: What an arm has before and after it.
* `Rendering.IsLegible`: An entry whose parts can be told from the texts around them.
* `Rendering.SameArm`: Entries that have the same arm.
* `Rendering.firstStretch`, `Rendering.laterStretches`: The output without its marks.

## Theorems

* `append_armHead_inj`: The start of an arm is found from its end, and tells the opcode.
* `armRest_inj`: The rest of an arm tells all of its entry but the opcode.
* `toList_dispatch`: The output is cut at the marks into stretches.
* `not_infix_firstStretch`, `not_infix_laterStretches`: There is no other mark in a stretch.
* `sameArm_of_stretches`: The stretches tell the entries.
* `dispatch_inj_iff`: The output tells the entries of a table, in order.
-/

namespace OpcodeForge.Rendering

open Opcode (Entry Table)
open Addressing (Registry)

/-- The name of the call that sets the cycles. -/
def armMark : List Char :=
  "set_instruction".toList

/-- What an arm has before the mark. -/
def armHead (e : Entry) : List Char :=
  "0x".toList ++ (e.key.toList ++ " => \x7b\n        ".toList)

/-- The line of additional code, unless that is empty. -/
def additionalLine (additional : String) : List Char :=
  if additional.isEmpty then [] else "          ".toList ++ (additional.toList ++ ['\n'])

/-- What an arm has after the mark. -/
def armRest (e : Entry) : List Char :=
  "!(self, ".toList ++ (e.cycles.text.toList ++ (", \x7b\n          ".toList ++ (e.mode.toList
    ++ ("!(self, memory);\n          ".toList ++ ((Text.lower e.instruction).toList
      ++ ("!(self, memory);\n".toList ++ (additionalLine e.additionalCodes
        ++ "        \x7d);\n      \x7d,".toList)))))))

/-- An entry whose parts can be told from the texts around them: its opcode is a byte, mode and
    name are on one line, and the mark is nowhere in it. -/
structure IsLegible (e : Entry) : Prop where
  opcode : ∃ k : Fin opcodeSpace, e.opcode = k.val
  modeLine : '\n' ∉ e.mode.toList
  nameLine : '\n' ∉ (Text.lower e.instruction).toList
  mode : ¬armMark <:+: e.mode.toList
  name : ¬armMark <:+: (Text.lower e.instruction).toList
  additional : ¬armMark <:+: e.additionalCodes.toList

/-- Entries that have the same arm. -/
structure SameArm (a b : Entry) : Prop where
  opcode : a.opcode = b.opcode
  mode : a.mode = b.mode
  name : Text.lower a.instruction = Text.lower b.instruction
  cycles : a.cycles = b.cycles
  additional : a.additionalCodes = b.additionalCodes

theorem toList_armOf (e : Entry) : (armOf e).toList = armHead e ++ (armMark ++ armRest e) := by
  have hopen : " => \x7b\n        " = " => \x7b\n" ++ "        " := by decide
  have hcall : "        set_instruction!(self, "
      = "        " ++ "set_instruction" ++ "!(self, " := by decide
  have hbrace : ", \x7b\n          " = ", \x7b\n" ++ "          " := by decide
  have hmode : "!(self, memory);\n          " = "!(self, memory);\n" ++ "          " := by decide
  have hline : ['\n'] = "\n".toList := by decide
  have hnil : [] = "".toList := by decide
  unfold armOf armText armHead armRest additionalLine armMark
  rw [hopen, hcall, hbrace, hmode, hline, hnil]
  split
  · simp only [String.toList_append, List.append_assoc]
  · simp only [String.toList_append, List.append_assoc]

theorem additionalLine_inj (a b : String) (h : additionalLine a = additionalLine b) : a = b := by
  unfold additionalLine at h
  by_cases ha : a.isEmpty = true
  · by_cases hb : b.isEmpty = true
    · rw [String.isEmpty_iff.mp ha, String.isEmpty_iff.mp hb]
    · rw [if_pos ha, if_neg hb] at h
      exact absurd h (by simp)
  · by_cases hb : b.isEmpty = true
    · rw [if_neg ha, if_pos hb] at h
      exact absurd h (by simp)
    · rw [if_neg ha, if_neg hb] at h
      exact String.toList_inj.mp (List.append_cancel_right (List.append_cancel_left h))

/-- What an arm has after the mark tells all of its entry but the opcode. -/
theorem armRest_inj (a b : Entry) (ha : IsLegible a) (hb : IsLegible b)
    (h : armRest a = armRest b) :
    a.cycles = b.cycles ∧ a.mode = b.mode ∧ Text.lower a.instruction = Text.lower b.instruction ∧
      a.additionalCodes = b.additionalCodes := by
  have hbrace : ", \x7b\n          ".toList = ',' :: " \x7b\n          ".toList := by decide
  have hmode : "!(self, memory);\n          ".toList
      = "!(self, memory);".toList ++ '\n' :: "          ".toList := by decide
  have hbody : "!(self, memory);\n".toList = "!(self, memory);".toList ++ ['\n'] := by decide
  -- The same text, with the characters at which it is cut on their own.
  have hlines : ∀ e : Entry, armRest e = "!(self, ".toList ++ (e.cycles.text.toList ++ ',' ::
      (" \x7b\n          ".toList ++ ((e.mode.toList ++ "!(self, memory);".toList) ++ '\n' ::
        ("          ".toList ++ (((Text.lower e.instruction).toList
          ++ "!(self, memory);".toList) ++ '\n' :: (additionalLine e.additionalCodes
            ++ "        \x7d);\n      \x7d,".toList)))))) := by
    intro e
    unfold armRest
    simp only [hbrace, hmode, hbody, List.append_assoc, List.cons_append, List.nil_append]
  have hcall : ∀ cs : List Char, '\n' ∉ cs → '\n' ∉ cs ++ "!(self, memory);".toList := by
    intro cs hcs
    rw [List.mem_append, not_or]
    exact ⟨hcs, by decide⟩
  have hcomma : ∀ n : Opcode.Cycles, ',' ∉ n.text.toList := fun n hmem =>
    absurd (n.of_mem_text ',' hmem) (by decide)
  rw [hlines a, hlines b] at h
  rcases Text.append_cons_inj ',' _ _ _ _ (hcomma _) (hcomma _) (List.append_cancel_left h) with
    ⟨hcycles, hrest⟩
  rcases Text.append_cons_inj '\n' _ _ _ _ (hcall _ ha.modeLine) (hcall _ hb.modeLine)
    (List.append_cancel_left hrest) with ⟨hsame, hrest'⟩
  rcases Text.append_cons_inj '\n' _ _ _ _ (hcall _ ha.nameLine) (hcall _ hb.nameLine)
    (List.append_cancel_left hrest') with ⟨hname, hadditional⟩
  exact ⟨Opcode.Cycles.text_inj _ _ (String.toList_inj.mp hcycles),
    String.toList_inj.mp (List.append_cancel_right hsame),
    String.toList_inj.mp (List.append_cancel_right hname),
    additionalLine_inj _ _ (List.append_cancel_right hadditional)⟩

/-- What an arm has before the mark tells the opcode, and has the same length for all bytes. -/
theorem append_armHead_inj (a b : Entry) (x y : List Char) (ha : IsLegible a) (hb : IsLegible b)
    (h : x ++ armHead a = y ++ armHead b) : x = y ∧ a.opcode = b.opcode := by
  rcases ha.opcode with ⟨j, hj⟩
  rcases hb.opcode with ⟨k, hk⟩
  have hkey : a.key = Number.byteKey j := by rw [Entry.key, hj, Number.hexKey_byte]
  have hkey' : b.key = Number.byteKey k := by rw [Entry.key, hk, Number.hexKey_byte]
  -- Keys of bytes are of one length, so both texts are cut at the same distance from their ends.
  have hlen : (armHead a).length = (armHead b).length := by
    unfold armHead
    simp only [List.length_append, String.length_toList, hkey, hkey', Number.length_byteKey]
  rcases List.append_inj' h hlen with ⟨hxy, hhead⟩
  have hkeys : a.key.toList = b.key.toList :=
    List.append_cancel_right (List.append_cancel_left hhead)
  have hjk : j = k := Number.byteKey_inj j k (by
    rw [← hkey, ← hkey', String.toList_inj.mp hkeys])
  exact ⟨hxy, by rw [hj, hk, hjk]⟩

/-- There is no other mark up to the end of the start of an arm. -/
theorem not_infix_append_armHead (e : Entry) (before : List Char) (h : IsLegible e)
    (hbefore : ¬armMark <:+: before) : ¬armMark <:+: before ++ armHead e := by
  rcases h.opcode with ⟨k, hk⟩
  have hdigits : Number.IsByteKey e.key :=
    (Number.isByteKey_hexKey_iff e.opcode).mpr (by rw [hk]; exact ⟨by omega, by omega⟩)
  have hkey : ¬armMark <:+: e.key.toList := fun hmark =>
    absurd (hdigits.2 '_' (List.IsInfix.subset hmark (by decide))) (by decide)
  have harrow : Text.Seals armMark " => \x7b\n        ".toList := by decide
  have hprefix : Text.Seals armMark "0x".toList := by decide
  exact hprefix.between hbefore (harrow.after hkey)

/-- There is no other mark in the line of additional code. -/
theorem not_infix_additionalLine (additional : String) (h : ¬armMark <:+: additional.toList) :
    ¬armMark <:+: additionalLine additional := by
  unfold additionalLine
  split
  · decide
  · have hindent : Text.Seals armMark "          ".toList := by decide
    have hline : Text.Seals armMark ['\n'] := by decide
    exact hindent.before (hline.after h)

/-- There is no other mark in the rest of an arm. -/
theorem not_infix_armRest (e : Entry) (h : IsLegible e) : ¬armMark <:+: armRest e := by
  have hcycles : ¬armMark <:+: e.cycles.text.toList := fun hmark =>
    absurd (e.cycles.of_mem_text '_' (List.IsInfix.subset hmark (by decide))) (by decide)
  have hself : Text.Seals armMark "!(self, ".toList := by decide
  have hbrace : Text.Seals armMark ", \x7b\n          ".toList := by decide
  have hcall : Text.Seals armMark "!(self, memory);\n          ".toList := by decide
  have hcall' : Text.Seals armMark "!(self, memory);\n".toList := by decide
  have hclose : Text.Seals armMark "        \x7d);\n      \x7d,".toList := by decide
  have hadditional := hclose.after (not_infix_additionalLine e.additionalCodes h.additional)
  have hname := hcall'.between h.name hadditional
  have hmode := hcall.between h.mode hname
  exact hself.before (hbrace.between hcycles hmode)

/-- What stands after the arms and the end of their last line. -/
def dispatchEnd : String :=
  "            _ => \x7b\n              self.steps = 1;\n            \x7d\n"
    ++ "        \x7d\n\n        self.steps -= 1;\n        self.cycles += 1;\n"
    ++ "    \x7d\n\x7d\n"

/-- What stands before the arms. Without any arm the line that they would be on ends there. -/
def dispatchStart : List Entry → List Char
  | [] => dispatchHead.toList ++ ['\n']
  | _ :: _ => dispatchHead.toList

/-- The output up to the mark of the first arm, if there is one, from what stands before it. -/
def firstStretch (before : List Char) : List Entry → List Char
  | [] => before ++ dispatchEnd.toList
  | e :: _ => before ++ armHead e

/-- The output after the mark of each arm, up to the next one. -/
def laterStretches : List Entry → List (List Char)
  | [] => []
  | e :: rest => firstStretch (armRest e ++ ['\n']) rest :: laterStretches rest

/-- Arms on lines of their own are cut at the marks into stretches. -/
theorem append_arms_eq (es : List Entry) : ∀ before : List Char,
    before ++ (es.flatMap (fun e => (armOf e).toList ++ ['\n']) ++ dispatchEnd.toList)
      = firstStretch before es ++ Text.marked armMark (laterStretches es) := by
  induction es with
  | nil =>
      intro before
      rw [laterStretches, Text.marked, List.flatMap_nil, List.flatMap_nil, List.append_nil,
        List.nil_append, firstStretch]
  | cons e rest ih =>
      intro before
      -- Before the next arm stand the rest of this one and the end of its last line.
      rw [laterStretches, Text.marked_cons, ← ih (armRest e ++ ['\n']), firstStretch,
        List.flatMap_cons, toList_armOf]
      simp only [List.append_assoc]

theorem toList_dispatchTail : dispatchTail.toList = ['\n'] ++ dispatchEnd.toList := by
  have hline : dispatchTail = "\n" ++ dispatchEnd := rfl
  have hbreak : "\n".toList = ['\n'] := by decide
  rw [hline, String.toList_append, hbreak]

/-- The output is cut at the marks into stretches. -/
theorem toList_dispatch (es : List Entry) :
    (dispatchHead ++ "\n".intercalate (es.map armOf) ++ dispatchTail).toList
      = firstStretch (dispatchStart es) es ++ Text.marked armMark (laterStretches es) := by
  rw [← append_arms_eq, String.toList_append, String.toList_append, String.toList_intercalate,
    List.map_map, toList_dispatchTail, List.append_assoc]
  -- Between the arms, and after the last one, there is the end of a line, but not without an arm.
  cases es with
  | nil => simp only [List.map_nil, List.intercalate_nil, dispatchStart, List.flatMap_nil,
      List.append_assoc, List.nil_append]
  | cons e rest =>
      have hlines : "\n".toList.intercalate ((e :: rest).map (String.toList ∘ armOf)) ++ ['\n']
          = (e :: rest).flatMap fun a => (armOf a).toList ++ ['\n'] := by
        have hends := Text.intercalate_append ['\n'] (armOf e).toList
          (rest.map (String.toList ∘ armOf))
        rw [List.flatMap_cons, List.flatMap_map] at hends
        exact hends
      rw [dispatchStart, ← List.append_assoc (List.intercalate _ _), hlines]

theorem not_infix_dispatchStart (es : List Entry) : ¬armMark <:+: dispatchStart es := by
  have hhead : ¬armMark <:+: dispatchHead.toList := by
    unfold dispatchHead
    rw [String.toList_append, String.toList_append, String.toList_append]
    decide +kernel
  have hline : Text.Seals armMark ['\n'] := by decide
  cases es with
  | nil => exact hline.after hhead
  | cons e rest => exact hhead

theorem not_infix_firstStretch (before : List Char) (es : List Entry)
    (hbefore : ¬armMark <:+: before) (h : ∀ e ∈ es, IsLegible e) :
    ¬armMark <:+: firstStretch before es := by
  cases es with
  | nil =>
      have hend : Text.Seals armMark dispatchEnd.toList := by
        unfold dispatchEnd
        rw [String.toList_append, String.toList_append]
        decide +kernel
      exact hend.after hbefore
  | cons e rest => exact not_infix_append_armHead e before (h e List.mem_cons_self) hbefore

theorem not_infix_laterStretches (es : List Entry) (h : ∀ e ∈ es, IsLegible e) :
    ∀ part ∈ laterStretches es, ¬armMark <:+: part := by
  induction es with
  | nil => exact List.forall_mem_nil _
  | cons e rest ih =>
      rw [List.forall_mem_cons] at h
      have hline : Text.Seals armMark ['\n'] := by decide
      have hrest := hline.after (not_infix_armRest e h.1)
      exact List.forall_mem_cons.mpr ⟨not_infix_firstStretch _ rest hrest h.2, ih h.2⟩

/-- The stretches tell the entries. -/
theorem sameArm_of_stretches (es : List Entry) :
    ∀ (es' : List Entry) (before before' : List Char), (∀ e ∈ es, IsLegible e) →
      (∀ e ∈ es', IsLegible e) → firstStretch before es = firstStretch before' es' →
      laterStretches es = laterStretches es' → before = before' ∧ List.Forall₂ SameArm es es' := by
  induction es with
  | nil =>
      intro es' before before' _ _ hfirst hlater
      cases es' with
      | nil => exact ⟨List.append_cancel_right hfirst, .nil⟩
      | cons e' rest' => exact absurd hlater (by simp [laterStretches])
  | cons e rest ih =>
      intro es' before before' h h' hfirst hlater
      cases es' with
      | nil => exact absurd hlater (by simp [laterStretches])
      | cons e' rest' =>
          rw [List.forall_mem_cons] at h h'
          rw [laterStretches, laterStretches, List.cons.injEq] at hlater
          rcases append_armHead_inj e e' before before' h.1 h'.1 hfirst with ⟨hbefore, hopcode⟩
          -- The next stretch begins with the rest of this arm, so the other arms are told first.
          rcases ih rest' _ _ h.2 h'.2 hlater.1 hlater.2 with ⟨hline, hrest⟩
          rcases armRest_inj e e' h.1 h'.1 (List.append_cancel_right hline) with
            ⟨hcycles, hmode, hname, hadditional⟩
          exact ⟨hbefore, .cons ⟨hopcode, hmode, hname, hcycles, hadditional⟩ hrest⟩

theorem map_armOf_congr (es es' : List Entry) (h : List.Forall₂ SameArm es es') :
    es.map armOf = es'.map armOf := by
  induction h with
  | nil => rfl
  | @cons a b rest rest' hsame _ ih =>
      have harm : armOf a = armOf b := by
        unfold armOf Entry.key
        rw [hsame.opcode, hsame.cycles, hsame.mode, hsame.name, hsame.additional]
      rw [List.map_cons, List.map_cons, harm, ih]

/-- Lists with the same arms between the same texts have the same entries. -/
theorem arms_inj_iff (es es' : List Entry) (h : ∀ e ∈ es, IsLegible e)
    (h' : ∀ e ∈ es', IsLegible e) :
    dispatchHead ++ "\n".intercalate (es.map armOf) ++ dispatchTail
        = dispatchHead ++ "\n".intercalate (es'.map armOf) ++ dispatchTail ↔
      List.Forall₂ SameArm es es' := by
  constructor
  · intro hsame
    have hcut := congrArg String.toList hsame
    rw [toList_dispatch, toList_dispatch] at hcut
    rcases Text.append_marked_inj armMark (by decide) _ _ _ _
      (not_infix_firstStretch _ es (not_infix_dispatchStart es) h)
      (not_infix_firstStretch _ es' (not_infix_dispatchStart es') h')
      (not_infix_laterStretches es h) (not_infix_laterStretches es' h') hcut with
      ⟨hfirst, hlater⟩
    exact (sameArm_of_stretches es es' _ _ h h' hfirst hlater).2
  · intro hsame
    rw [map_armOf_congr es es' hsame]

/-- A table of bytes is rendered in its own order. -/
theorem dispatch_eq_of_isLegible (registry : Registry) (es : List Entry) (s : String)
    (h : ∀ e ∈ es, IsLegible e) (hs : dispatch registry (Table.ofList es) = .ok s) :
    dispatchHead ++ "\n".intercalate ((Table.ofList es).entries.map armOf) ++ dispatchTail
      = s := by
  rcases (dispatch_eq_ok_iff registry _ s).mp hs with ⟨hall, htext⟩
  have hsorted : byKey (Table.ofList es).entries = (Table.ofList es).entries := by
    refine (byKey_eq_self_iff _ (fun e he => (hall e he).1) (Table.pairwise_ofList es)).mpr ?_
    intro a ha b _ hnegative
    rcases (h a ((Table.perm_ofList es).mem_iff.mp ha)).opcode with ⟨k, hk⟩
    omega
  rw [hsorted] at htext
  exact htext

/-- The output tells the entries of a table. Two tables of bytes that are rendered have the same
    output exactly if they have the same number of entries, and these have the same opcodes,
    modes, names, cycles and additional code, one by one and in order. -/
theorem dispatch_inj_iff (registry registry' : Registry) (es es' : List Entry) (s s' : String)
    (h : ∀ e ∈ es, IsLegible e) (h' : ∀ e ∈ es', IsLegible e)
    (hs : dispatch registry (Table.ofList es) = .ok s)
    (hs' : dispatch registry' (Table.ofList es') = .ok s') :
    s = s' ↔ List.Forall₂ SameArm (Table.ofList es).entries (Table.ofList es').entries := by
  rw [← dispatch_eq_of_isLegible registry es s h hs,
    ← dispatch_eq_of_isLegible registry' es' s' h' hs']
  exact arms_inj_iff _ _ (fun e he => h e ((Table.perm_ofList es).mem_iff.mp he))
    fun e he => h' e ((Table.perm_ofList es').mem_iff.mp he)

/-- An entry that does nothing but run the given code. -/
def running (k : UInt8) (code : String) : Entry :=
  ⟨k.toNat, "imp", "NOP", .count 2, false, code, Opcode.defaultSource⟩

/-- Code that lacks a letter of the mark does not have the mark in it. -/
theorem isLegible_running (k : UInt8) (code : String) (h : 'c' ∉ code.toList) :
    IsLegible (running k code) where
  opcode := ⟨⟨k.toNat, k.toNat_lt⟩, rfl⟩
  modeLine := show '\n' ∉ "imp".toList by decide
  nameLine := show '\n' ∉ (Text.lower "NOP").toList by decide
  mode := show ¬armMark <:+: "imp".toList by decide
  name := show ¬armMark <:+: (Text.lower "NOP").toList by decide
  additional := fun hmark => h (hmark.subset (by decide))

/-- Entries that run code are rendered in the order of their opcodes. -/
theorem dispatch_running (es : List (UInt8 × String))
    (h : es.Pairwise fun a b => a.1 ≤ b.1) :
    let table := Table.ofList (es.map fun e => running e.1 e.2)
    table.entries = es.map (fun e => running e.1 e.2) ∧
      ∃ s, dispatch Registry.default table = .ok s := by
  intro table
  have hentries : table.entries = es.map fun e => running e.1 e.2 :=
    List.mergeSort_of_pairwise (List.pairwise_map.mpr
      (h.imp fun hab => decide_eq_true (Int.ofNat_le.mpr (UInt8.le_iff_toNat_le.mp hab))))
  have hcycles : (Opcode.Cycles.count 2).isWritable = true := by decide +kernel
  have hmode : Registry.default.isEnabledCode "imp" = true := by decide +kernel
  refine ⟨hentries, dispatch_ok _ _ fun e he => ?_⟩
  rw [hentries, List.mem_map] at he
  rcases he with ⟨x, -, rfl⟩
  exact ⟨⟨⟨x.1.toNat, x.1.toNat_lt⟩, rfl⟩, hcycles, hmode⟩

/-- Code that ends its arm, and goes on like the next one and the arm for all other opcodes. -/
def escaping : String :=
  "\n        \x7d);\n      \x7d,\n0xea => \x7b\n        nop();\n      \x7d,\n            _ => \x7b\n"

/-- Two arms, of which the first or the second has code that looks like the text between them. -/
theorem dispatch_inj_iff_escaping :
    let es := [running 0xa9 ("run();" ++ escaping), running 0xea "stop();"]
    let es' := [running 0xa9 "run();", running 0xea (escaping ++ "stop();")]
    (∀ e ∈ es, IsLegible e) ∧ (∀ e ∈ es', IsLegible e) ∧
      ∃ s s', dispatch Registry.default (Table.ofList es) = .ok s ∧
        dispatch Registry.default (Table.ofList es') = .ok s' ∧ s ≠ s' := by
  intro es es'
  have hes : ∀ e ∈ es, IsLegible e := by
    rw [List.forall_mem_cons, List.forall_mem_singleton]
    exact ⟨isLegible_running _ _ (by decide +kernel), isLegible_running _ _ (by decide)⟩
  have hes' : ∀ e ∈ es', IsLegible e := by
    rw [List.forall_mem_cons, List.forall_mem_singleton]
    exact ⟨isLegible_running _ _ (by decide), isLegible_running _ _ (by decide +kernel)⟩
  rcases dispatch_running [(0xa9, "run();" ++ escaping), (0xea, "stop();")] (by decide) with
    ⟨hentries, s, hs⟩
  rcases dispatch_running [(0xa9, "run();"), (0xea, escaping ++ "stop();")] (by decide) with
    ⟨hentries', s', hs'⟩
  refine ⟨hes, hes', s, s', hs, hs', fun hsame => ?_⟩
  have harms := (dispatch_inj_iff _ _ es es' s s' hes hes' hs hs').mp hsame
  rw [show (Table.ofList es).entries = es from hentries,
    show (Table.ofList es').entries = es' from hentries'] at harms
  -- The first arms differ in their code already.
  have hadditional := (List.forall₂_cons.mp harms).1.additional
  exact absurd hadditional (by decide)

end OpcodeForge.Rendering
