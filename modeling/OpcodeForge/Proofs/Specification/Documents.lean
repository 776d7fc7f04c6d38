import OpcodeForge.Generation

/-!
# Faults of Documents

Whether a document of the directory is at fault is a matter of its bytes and of one
heading. The bytes must be a text, and the first heading of the implementation must
have a text right after it. Nothing else in a document can be wrong, since a missing
table or further code that is no text are only worth a warning.

The report about the section names its heading. Where that has no text, there is no report, and
the reading ends at the first document that would need one (`Unnameable`).

A document is a regular file with the right suffix. Its identifier gives back the name
of the file, so each such file is read under exactly one identifier.

## Main definitions

* `HasImplementation`: The section that must be there is there.
* `Library.Lists`: A file of the directory that is a document.
* `documentFailure?`: What is wrong with a document.
* `documentFailures`: What is wrong with documents, in order.
* `Unnameable`: A document lacks its section, and that cannot be reported.
* `specified`: The instructions that documents specify, in order.

## Theorems

* `sectionAfter?_eq_some_iff`: A section is the block after the first heading.
* `extract_cases`: When blocks specify an instruction.
* `Library.mem_identifiers_iff`: The documents are the files that are listed.
* `readDocument_cases`: A document specifies an instruction, has a fault, or ends the reading.
* `readDocuments_eq`: Reading documents gives what they specify and their faults.
* `readDocuments_stops`: Reading ends at a document whose fault cannot be reported.
* `documentFailure?_eq_none_iff`: When a document has no fault.
-/

namespace OpcodeForge

open Specification

namespace Specification

/-- A section is the block right after the first heading. -/
theorem sectionAfter?_eq_some_iff (heading : Value) (bs : List Block) (b : Block) :
    sectionAfter? heading bs = some b ↔ ∃ before h after, bs = before ++ h :: b :: after ∧
      isHeading heading h = true ∧ ∀ x ∈ before, isHeading heading x = false := by
  induction bs with
  | nil =>
      simp only [sectionAfter?, reduceCtorEq, List.nil_eq, List.append_eq_nil_iff, and_false,
        false_and, exists_false]
  | cons x rest ih =>
      unfold sectionAfter?
      cases hx : isHeading heading x with
      | true =>
          simp only [if_true]
          constructor
          · intro hb
            rcases rest with _ | ⟨y, after⟩
            · exact absurd hb (by simp only [List.head?_nil, reduceCtorEq, not_false_eq_true])
            · rw [List.head?_cons, Option.some.injEq] at hb
              refine ⟨[], x, after, ?_, hx, fun y hy => absurd hy List.not_mem_nil⟩
              rw [hb, List.nil_append]
          · rintro ⟨before, h, after, heq, hh, hbefore⟩
            rcases before with _ | ⟨y, before⟩
            · rw [(List.cons.inj heq).2, List.head?_cons]
            · have hy := hbefore y List.mem_cons_self
              rw [← (List.cons.inj heq).1, hx] at hy
              exact absurd hy (by decide)
      | false =>
          simp only [Bool.false_eq_true, if_false]
          rw [ih]
          constructor
          · rintro ⟨before, h, after, rfl, hh, hbefore⟩
            refine ⟨x :: before, h, after, rfl, hh, fun y hy => ?_⟩
            rcases List.mem_cons.mp hy with rfl | hy
            · exact hx
            · exact hbefore y hy
          · rintro ⟨before, h, after, heq, hh, hbefore⟩
            rcases before with _ | ⟨y, before⟩
            · rw [(List.cons.inj heq).1, hh] at hx
              exact absurd hx (by decide)
            · exact ⟨before, h, after, (List.cons.inj heq).2, hh,
                fun z hz => hbefore z (List.mem_cons_of_mem y hz)⟩

/-- The first heading of the implementation has a text right after it. -/
def HasImplementation (headings : Headings) (bs : List Block) : Prop :=
  ∃ before h kind s after, bs = before ++ h :: .text kind s :: after ∧
    isHeading headings.implementation h = true ∧
    ∀ x ∈ before, isHeading headings.implementation x = false

/-- What is wrong with the sections of a document. -/
def sectionFailure (headings : Headings) (identifier : String) (bs : List Block) : Failure :=
  .structural identifier headings.implementation
    (if hasHeading headings.implementation bs then .noText else .missing)

theorem hasImplementation_iff (headings : Headings) (bs : List Block) :
    HasImplementation headings bs ↔
      ((sectionAfter? headings.implementation bs).bind Block.text?).isSome = true := by
  constructor
  · rintro ⟨before, h, kind, s, after, hsplit⟩
    have hsection := (sectionAfter?_eq_some_iff headings.implementation bs (.text kind s)).mpr
      ⟨before, h, after, hsplit⟩
    rw [hsection]
    rfl
  · intro hsome
    rcases Option.isSome_iff_exists.mp hsome with ⟨s, hs⟩
    rcases Option.bind_eq_some_iff.mp hs with ⟨b, hb, htext⟩
    rcases (sectionAfter?_eq_some_iff _ bs b).mp hb with ⟨before, h, after, hsplit⟩
    cases b with
    | text kind s => exact ⟨before, h, kind, s, after, hsplit⟩
    | heading depth s => exact absurd htext (by simp [Block.text?])
    | table header rows => exact absurd htext (by simp [Block.text?])
    | other name => exact absurd htext (by simp only [Block.text?, reduceCtorEq, not_false_eq_true])

instance (headings : Headings) (bs : List Block) : Decidable (HasImplementation headings bs) :=
  decidable_of_iff _ (hasImplementation_iff headings bs).symm

/-- Blocks specify an instruction if they have the section that must be there, and
    otherwise that is all that is wrong with them. -/
theorem extract_cases (headings : Headings) (identifier : String) (bs : List Block) :
    (HasImplementation headings bs ∧ ∃ r, extract headings identifier bs = .ok r) ∨
      (¬HasImplementation headings bs ∧
        extract headings identifier bs = .error (sectionFailure headings identifier bs)) := by
  rw [hasImplementation_iff]
  unfold extract
  cases (sectionAfter? headings.implementation bs).bind Block.text? with
  | none => exact Or.inr ⟨by decide, rfl⟩
  | some s => exact Or.inl ⟨rfl, _, rfl⟩

namespace Library

/-- A name with the suffix is that of the document of what is before the suffix. -/
theorem identifierOf?_eq_some_iff (name identifier : String) :
    identifierOf? name = some identifier ↔ name = identifier ++ documentSuffix := by
  unfold identifierOf?
  simp only []
  constructor
  · intro h
    split at h
    · rename_i hdrop
      rw [← Option.some.inj h, ← String.toList_inj, String.toList_append, String.toList_ofList,
        ← hdrop, List.take_append_drop]
    · exact absurd h (by simp only [reduceCtorEq, not_false_eq_true])
  · rintro rfl
    have hlen : (identifier ++ documentSuffix).length - documentSuffix.length
        = identifier.toList.length := by
      rw [String.length_append, Nat.add_sub_cancel, String.length_toList]
    rw [hlen, String.toList_append, List.drop_left, if_pos rfl, List.take_left,
      String.ofList_toList]

/-- A document of the directory: a regular file whose name is the identifier and the
    suffix. -/
def Lists (lib : Library) (d : Disk) (identifier : String) : Prop :=
  (∃ names, d.names lib.directory = .ok names ∧ identifier ++ documentSuffix ∈ names) ∧
    d.isFile (lib.path identifier) = true

theorem mem_fileNames_iff (lib : Library) (d : Disk) (name : String) :
    name ∈ lib.fileNames d ↔
      ∃ names, d.names lib.directory = .ok names ∧ name ∈ names ∧ lib.isDocument d name = true := by
  unfold fileNames
  cases hnames : d.names lib.directory with
  | error f => simp only [List.not_mem_nil, reduceCtorEq, false_and, exists_false]
  | ok names =>
      simp only [List.mem_mergeSort, List.mem_filter, Except.ok.injEq, exists_eq_left']

/-- The documents are the files that are listed. -/
theorem mem_identifiers_iff (lib : Library) (d : Disk) (ids : List String)
    (h : lib.identifiers d = .ok ids) (identifier : String) :
    identifier ∈ ids ↔ lib.Lists d identifier := by
  have hids : ids = (lib.fileNames d).filterMap identifierOf? := by
    unfold identifiers at h
    split at h
    · exact (Except.ok.inj h).symm
    · exact absurd h (by simp only [reduceCtorEq, not_false_eq_true])
  rw [hids, List.mem_filterMap]
  constructor
  · rintro ⟨name, hname, hid⟩
    rw [identifierOf?_eq_some_iff] at hid
    rcases (mem_fileNames_iff lib d name).mp hname with ⟨names, hnames, hmem, hdoc⟩
    rw [hid] at hmem hdoc
    exact ⟨⟨names, hnames, hmem⟩, (Bool.and_eq_true_iff.mp hdoc).2⟩
  · rintro ⟨⟨names, hnames, hmem⟩, hfile⟩
    have hid := (identifierOf?_eq_some_iff _ identifier).mpr rfl
    refine ⟨identifier ++ documentSuffix, (mem_fileNames_iff lib d _).mpr
      ⟨names, hnames, hmem, Bool.and_eq_true_iff.mpr ⟨?_, hfile⟩⟩, hid⟩
    rw [hid]
    rfl

end Library

end Specification

/-- Where a file is, there are bytes to read. -/
theorem Disk.read_of_isFile (d : Disk) (p : String) (h : d.isFile p = true) :
    ∃ bytes, d.read p = .ok bytes := by
  unfold isFile find? at h
  unfold read
  cases hl : d.locate p with
  | error f => exact absurd h (by simp only [hl, Bool.false_eq_true, not_false_eq_true])
  | ok k =>
      simp only [hl] at h
      simp only [bind, Except.bind]
      cases hk : d.get? k with
      | none => exact absurd h (by simp only [hk, Bool.false_eq_true, not_false_eq_true])
      | some x =>
          cases x with
          | directory => exact absurd h (by simp only [hk, Bool.false_eq_true, not_false_eq_true])
          | file bytes =>
              cases hn : namesDirectory p with
              | true =>
                  exact absurd h (by
                    simp only [hk, hn, if_true, Bool.false_eq_true, not_false_eq_true])
              | false => exact ⟨bytes, rfl⟩

namespace Generator

/-- The blocks of a document with a text. -/
def documentBlocks (cs : List Char) : List Block :=
  readBlocks (String.ofList (Text.unixLines cs))

/-- What is wrong with a document: its bytes are no text, or the section that must be
    there is not. -/
def documentFailure? (headings : Headings) (lib : Library) (d : Disk) (identifier : String) :
    Option Failure :=
  match d.read (lib.path identifier) with
  | .error fault => some (.specRead identifier (lib.path identifier) (.refused fault))
  | .ok bytes =>
    match Text.decode bytes with
    | .error fault => some (.specRead identifier (lib.path identifier) (.notText fault))
    | .ok cs =>
      if HasImplementation headings (documentBlocks cs) then none
      else some (sectionFailure headings identifier (documentBlocks cs))

/-- What is wrong with documents, in order. -/
def documentFailures (headings : Headings) (lib : Library) (d : Disk) (ids : List String) :
    List Failure :=
  ids.filterMap (documentFailure? headings lib d)

/-- The instruction that a document specifies, if it does. -/
def specified? (headings : Headings) (lib : Library) (d : Disk) (identifier : String) :
    Option Instruction :=
  (readDocument headings lib d identifier).toOption.map (·.1)

/-- The instructions that documents specify, in order. -/
def specified (headings : Headings) (lib : Library) (d : Disk) (ids : List String) :
    List Instruction :=
  ids.filterMap (specified? headings lib d)

/-- A document that is listed has no fault exactly if it is a text with the section
    that must be there. -/
theorem documentFailure?_eq_none_iff (headings : Headings) (lib : Library) (d : Disk)
    (identifier : String) (bytes : List UInt8) (h : d.read (lib.path identifier) = .ok bytes) :
    documentFailure? headings lib d identifier = none ↔
      ∃ cs, Text.decode bytes = .ok cs ∧ HasImplementation headings (documentBlocks cs) := by
  unfold documentFailure?
  rw [h]
  cases hdecode : Text.decode bytes with
  | error fault => simp only [hdecode, reduceCtorEq, false_and, exists_false]
  | ok cs =>
      simp only [hdecode, Except.ok.injEq, exists_eq_left']
      by_cases himpl : HasImplementation headings (documentBlocks cs)
      · simp only [himpl, if_true]
      · simp only [himpl, if_false, reduceCtorEq]

/-- A document lacks the section that must be there, and the heading of that has no text to report
    it with. -/
def Unnameable (headings : Headings) (lib : Library) (d : Disk) (identifier : String) : Prop :=
  headings.implementation.isWritable = false ∧ ∃ bytes cs,
    d.read (lib.path identifier) = .ok bytes ∧ Text.decode bytes = .ok cs ∧
      ¬HasImplementation headings (documentBlocks cs)

theorem unnameable_iff (headings : Headings) (lib : Library) (d : Disk) (identifier : String)
    (bytes : List UInt8) (cs : List Char) (hread : d.read (lib.path identifier) = .ok bytes)
    (hdecode : Text.decode bytes = .ok cs) : Unnameable headings lib d identifier ↔
      headings.implementation.isWritable = false ∧
        ¬HasImplementation headings (documentBlocks cs) := by
  unfold Unnameable
  simp only [hread, Except.ok.injEq, exists_and_left, exists_eq_left', hdecode]

theorem documentFailure?_ne_none_of_unnameable {headings : Headings} {lib : Library} {d : Disk}
    {identifier : String} (h : Unnameable headings lib d identifier) :
    documentFailure? headings lib d identifier ≠ none := by
  rcases h with ⟨-, bytes, cs, hread, hdecode, hno⟩
  rw [Ne, documentFailure?_eq_none_iff headings lib d identifier bytes hread]
  rintro ⟨cs', hdecode', himpl⟩
  rw [hdecode, Except.ok.injEq] at hdecode'
  exact hno (hdecode' ▸ himpl)

/-- A document specifies an instruction, has a fault, or has one that cannot be reported. -/
theorem readDocument_cases (headings : Headings) (lib : Library) (d : Disk)
    (identifier : String) :
    (∃ r, readDocument headings lib d identifier = .ok r ∧
      documentFailure? headings lib d identifier = none) ∨
    (∃ f, readDocument headings lib d identifier = .error (.failure f) ∧
      documentFailure? headings lib d identifier = some f ∧
      ¬Unnameable headings lib d identifier) ∨
    ∃ f, readDocument headings lib d identifier = .error (.defect .numberTooLong) ∧
      documentFailure? headings lib d identifier = some f ∧
      Unnameable headings lib d identifier := by
  cases hread : d.read (lib.path identifier) with
  | error fault =>
      have hnot : ¬Unnameable headings lib d identifier := by
        rintro ⟨-, bytes, -, hbytes, -⟩
        exact absurd (hread.symm.trans hbytes) (by simp only [reduceCtorEq, not_false_eq_true])
      unfold readDocument documentFailure? Library.read
      simp only [hread]
      exact Or.inr (Or.inl ⟨_, rfl, rfl, hnot⟩)
  | ok bytes =>
      cases hdecode : Text.decode bytes with
      | error fault =>
          have hnot : ¬Unnameable headings lib d identifier := by
            rintro ⟨-, bytes', cs, hbytes, hcs, -⟩
            rw [← Except.ok.inj (hread.symm.trans hbytes), hdecode] at hcs
            exact absurd hcs (by simp only [reduceCtorEq, not_false_eq_true])
          unfold readDocument documentFailure? Library.read
          simp only [hread, hdecode]
          exact Or.inr (Or.inl ⟨_, rfl, rfl, hnot⟩)
      | ok cs =>
          rw [unnameable_iff headings lib d identifier bytes cs hread hdecode]
          unfold readDocument documentFailure? Library.read
          simp only [hread, hdecode]
          rcases extract_cases headings identifier (documentBlocks cs) with
            ⟨himpl, r, hr⟩ | ⟨himpl, hr⟩
          · rw [documentBlocks] at hr
            exact Or.inl ⟨r, by rw [hr], if_pos himpl⟩
          · rw [documentBlocks] at hr
            rw [hr]
            cases headings.implementation.isWritable with
            | true => exact Or.inr (Or.inl ⟨_, rfl, if_neg himpl, fun h => absurd h.1 (by decide)⟩)
            | false => exact Or.inr (Or.inr ⟨_, rfl, if_neg himpl, rfl, himpl⟩)

/-- A document that has a fault specifies nothing. -/
theorem specified?_eq_none (headings : Headings) (lib : Library) (d : Disk)
    (identifier : String) (f : Failure)
    (h : documentFailure? headings lib d identifier = some f) :
    specified? headings lib d identifier = none := by
  unfold specified?
  rcases readDocument_cases headings lib d identifier with
    ⟨r, -, hnone⟩ | ⟨f', hread, -⟩ | ⟨f', hread, -⟩
  · rw [hnone] at h
    exact absurd h (by simp only [reduceCtorEq, not_false_eq_true])
  · rw [hread]
    rfl
  · rw [hread]
    rfl

/-- Reading documents gives what they specify and what is wrong with them, as long as each fault
    can be reported. -/
theorem readDocuments_eq (headings : Headings) (lib : Library) (d : Disk) (ids : List String)
    (h : ∀ id ∈ ids, ¬Unnameable headings lib d id) : ∃ log, readDocuments headings lib d ids =
      (⟨specified headings lib d ids, documentFailures headings lib d ids, log⟩, .ok ()) := by
  induction ids with
  | nil => exact ⟨[], rfl⟩
  | cons identifier rest ih =>
      rcases ih fun id hid => h id (List.mem_cons_of_mem identifier hid) with ⟨log, hrest⟩
      unfold readDocuments specified documentFailures
      rcases readDocument_cases headings lib d identifier with
        ⟨⟨i, told⟩, hread, hnone⟩ | ⟨f, hread, hsome, -⟩ | ⟨f, -, -, hstops⟩
      · have hi : specified? headings lib d identifier = some i := by
          unfold specified?
          rw [hread]
          rfl
        rw [List.filterMap_cons_some hi, List.filterMap_cons_none hnone, hread, hrest]
        exact ⟨told ++ log, rfl⟩
      · rw [List.filterMap_cons_none (specified?_eq_none headings lib d identifier f hsome),
          List.filterMap_cons_some hsome, hread, hrest]
        exact ⟨log, rfl⟩
      · exact absurd hstops (h identifier List.mem_cons_self)

/-- Reading ends at a document whose fault cannot be reported. -/
theorem readDocuments_stops (headings : Headings) (lib : Library) (d : Disk) (ids : List String)
    (h : ∃ id ∈ ids, Unnameable headings lib d id) :
    (readDocuments headings lib d ids).2 = .error .numberTooLong := by
  induction ids with
  | nil =>
      rcases h with ⟨id, hid, -⟩
      exact absurd hid List.not_mem_nil
  | cons identifier rest ih =>
      simp only [List.mem_cons, exists_eq_or_imp] at h
      unfold readDocuments
      rcases readDocument_cases headings lib d identifier with
        ⟨r, hread, hnone⟩ | ⟨f, hread, -, hnot⟩ | ⟨f, hread, -⟩
      · rw [hread]
        exact ih (h.resolve_left fun hthis => documentFailure?_ne_none_of_unnameable hthis hnone)
      · rw [hread]
        exact ih (h.resolve_left hnot)
      · rw [hread]

/-- A document that is a text specifies what its blocks do. -/
theorem readDocument_eq (headings : Headings) (lib : Library) (d : Disk) (identifier : String)
    (bytes : List UInt8) (cs : List Char) (found : Instruction × List Log.Line)
    (hread : d.read (lib.path identifier) = .ok bytes)
    (hdecode : (Text.decode bytes).toOption = some cs)
    (h : extract headings identifier (documentBlocks cs) = .ok found) :
    readDocument headings lib d identifier = .ok found := by
  unfold readDocument Library.read
  simp only [hread]
  cases hcs : Text.decode bytes with
  | error f =>
      rw [hcs] at hdecode
      cases hdecode
  | ok cs' =>
      rw [hcs] at hdecode
      rw [← Option.some.inj hdecode] at h
      dsimp only
      rw [show extract headings identifier (readBlocks _) = .ok found from h]

theorem readDocuments_cons (headings : Headings) (lib : Library) (d : Disk)
    (identifier : String) (rest : List String) (i : Instruction) (log : List Log.Line)
    (others : Reading) (h : readDocument headings lib d identifier = .ok (i, log))
    (hrest : readDocuments headings lib d rest = (others, .ok ())) :
    readDocuments headings lib d (identifier :: rest) =
      (⟨i :: others.instructions, others.failures, log ++ others.log⟩, .ok ()) := by
  unfold readDocuments
  rw [h, hrest]

theorem readDocuments_singleton (headings : Headings) (lib : Library) (d : Disk)
    (identifier : String) (i : Instruction) (log : List Log.Line)
    (h : readDocument headings lib d identifier = .ok (i, log)) :
    readDocuments headings lib d [identifier] = (⟨[i], [], log⟩, .ok ()) := by
  rw [readDocuments_cons headings lib d identifier [] i log ⟨[], [], []⟩ h rfl, List.append_nil]

end Generator

end OpcodeForge
