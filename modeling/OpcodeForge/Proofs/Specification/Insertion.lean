import OpcodeForge.Specification.Section

/-!
# Blocks That Do Not Count

An instruction is specified by three sections, and the searches for them do not know of each
other. Each search sees two things of the blocks only: whether there is a heading with its text,
and the block right after the first such heading. So two lists of blocks in which the three
searches see the same specify the same instruction, or fail in the same way, and with the same
warnings (`extract_congr`).

A block that is inserted is not seen unless it comes right after the first heading of a section,
or is itself the first heading of one. This has to be asked for each of the three texts alone.
Texts that are configured alike, headings that occur again, and headings of another depth need no
case of their own.

## Main definitions

* `Headings.toList`: The headings of the three sections.
* `following?`: What a search sees of the blocks.

## Theorems

* `sectionAfter?_eq_join`, `hasHeading_eq_isSome`: The searches see nothing else.
* `following?_insertIdx`: A search does not see a block that is inserted elsewhere.
* `extract_congr`: What the searches see decides about everything.
* `extract_insertIdx`: A block that is inserted elsewhere changes nothing.
-/

namespace OpcodeForge.Specification

/-- The headings of the three sections. -/
def Headings.toList (headings : Headings) : List Value :=
  [headings.addressing, headings.implementation, headings.additionalCodes]

/-- The block right after the first heading, or that there is none, if the heading occurs. -/
def following? (heading : Value) (bs : List Block) : Option (Option Block) :=
  (bs.findIdx? (isHeading heading)).map fun i => bs[i + 1]?

theorem following?_cons_of_isHeading (heading : Value) (b : Block) (bs : List Block)
    (h : isHeading heading b = true) : following? heading (b :: bs) = some bs.head? := by
  rw [following?, List.findIdx?_cons, if_pos h, Option.map_some, List.getElem?_cons_succ,
    List.head?_eq_getElem?]

theorem following?_cons_of_not_isHeading (heading : Value) (b : Block) (bs : List Block)
    (h : isHeading heading b = false) : following? heading (b :: bs) = following? heading bs := by
  rw [following?, List.findIdx?_cons, h, if_neg Bool.false_ne_true, Option.map_map]
  rfl

/-- The section of a heading is the block right after the first of its kind. -/
theorem sectionAfter?_eq_join (heading : Value) (bs : List Block) :
    sectionAfter? heading bs = (following? heading bs).join := by
  induction bs with
  | nil => rfl
  | cons b rest ih =>
      rw [sectionAfter?]
      cases hb : isHeading heading b with
      | true => rw [following?_cons_of_isHeading heading b rest hb, if_pos rfl, Option.join_some]
      | false =>
          rw [following?_cons_of_not_isHeading heading b rest hb, if_neg Bool.false_ne_true, ih]

theorem hasHeading_eq_isSome (heading : Value) (bs : List Block) :
    hasHeading heading bs = (following? heading bs).isSome := by
  rw [following?, Option.isSome_map, List.findIdx?_isSome, hasHeading]

theorem following?_insertIdx_zero (heading : Value) (x : Block) (bs : List Block)
    (hx : isHeading heading x = true → hasHeading heading (bs.take 0) = true) :
    following? heading (bs.insertIdx 0 x) = following? heading bs := by
  cases h : isHeading heading x with
  | true => exact absurd (hx h) Bool.false_ne_true
  | false => exact following?_cons_of_not_isHeading heading x bs h

/-- A block is not seen if it does not come right after the first heading, and if it is no such
heading itself or there is one before it. -/
theorem following?_insertIdx (heading : Value) (x : Block) (bs : List Block) :
    ∀ p, (bs.findIdx? (isHeading heading)).map (· + 1) ≠ some p →
      (isHeading heading x = true → hasHeading heading (bs.take p) = true) →
      following? heading (bs.insertIdx p x) = following? heading bs := by
  induction bs with
  | nil =>
      intro p _ hx
      cases p with
      | zero => exact following?_insertIdx_zero heading x [] hx
      | succ p => rfl
  | cons b rest ih =>
      intro p hp hx
      cases p with
      | zero => exact following?_insertIdx_zero heading x (b :: rest) hx
      | succ p =>
          rw [List.insertIdx_succ_cons]
          cases hb : isHeading heading b with
          | true =>
              -- The search ends here, and the new block is not the next one.
              rw [List.findIdx?_cons, if_pos hb] at hp
              cases p with
              | zero => exact absurd rfl hp
              | succ p =>
                  rw [following?_cons_of_isHeading heading b _ hb,
                    following?_cons_of_isHeading heading b _ hb]
                  cases rest with
                  | nil => rfl
                  | cons c more => rw [List.insertIdx_succ_cons, List.head?_cons, List.head?_cons]
          | false =>
              rw [following?_cons_of_not_isHeading heading b _ hb,
                following?_cons_of_not_isHeading heading b _ hb]
              refine ih p (fun hfirst => hp ?_) (fun h => ?_)
              · rcases Option.map_eq_some_iff.mp hfirst with ⟨i, hi, rfl⟩
                rw [List.findIdx?_cons, hb, if_neg Bool.false_ne_true, hi]
                rfl
              · have htake := hx h
                rw [List.take_succ_cons, hasHeading, List.any_cons, hb, Bool.false_or] at htake
                exact htake

/-- Blocks in which the three searches see the same specify the same. -/
theorem extract_congr (headings : Headings) (identifier : String) (bs cs : List Block)
    (h : ∀ heading ∈ headings.toList, following? heading cs = following? heading bs) :
    extract headings identifier cs = extract headings identifier bs := by
  have hsection : ∀ heading ∈ headings.toList,
      sectionAfter? heading cs = sectionAfter? heading bs := by
    intro heading hmem
    rw [sectionAfter?_eq_join, sectionAfter?_eq_join, h heading hmem]
  have hhas : ∀ heading ∈ headings.toList, hasHeading heading cs = hasHeading heading bs := by
    intro heading hmem
    rw [hasHeading_eq_isSome, hasHeading_eq_isSome, h heading hmem]
  have haddressing : headings.addressing ∈ headings.toList := List.mem_cons_self
  have himplementation : headings.implementation ∈ headings.toList :=
    List.mem_cons_of_mem _ List.mem_cons_self
  have hadditional : headings.additionalCodes ∈ headings.toList :=
    List.mem_cons_of_mem _ (List.mem_cons_of_mem _ List.mem_cons_self)
  unfold extract
  rw [hsection _ haddressing, hsection _ himplementation, hsection _ hadditional,
    hhas _ himplementation, hhas _ hadditional]

/-- Nothing but the first heading of each section and the block right after it counts. A block
that is inserted somewhere else changes neither the instruction or the failure nor the warnings,
where a heading of a section is somewhere else if one with the same text comes before. -/
theorem extract_insertIdx (headings : Headings) (identifier : String) (bs : List Block) :
    (∀ cs, (∀ heading ∈ headings.toList, following? heading cs = following? heading bs) →
      extract headings identifier cs = extract headings identifier bs) ∧
    ∀ p x, (∀ heading ∈ headings.toList,
        (bs.findIdx? (isHeading heading)).map (· + 1) ≠ some p) →
      (∀ heading ∈ headings.toList,
        isHeading heading x = true → hasHeading heading (bs.take p) = true) →
      extract headings identifier (bs.insertIdx p x) = extract headings identifier bs := by
  refine ⟨fun cs => extract_congr headings identifier bs cs, ?_⟩
  intro p x hp hx
  refine extract_congr headings identifier bs _ fun heading hmem => ?_
  exact following?_insertIdx heading x bs p (hp heading hmem) (hx heading hmem)

/-- A document without a table, and with nothing after its last heading. -/
def tableless : List Block :=
  [.heading 2 "Implementation", .text .paragraph "$self.p &= !0x01;", .heading 2 "Additional Codes"]

/-- A title in front changes nothing, and neither does a heading that occurs again. -/
theorem extract_tableless :
    extract Headings.default "CLC" (.heading 1 "Implementation" :: tableless) =
      extract Headings.default "CLC" tableless ∧
    extract Headings.default "CLC" (tableless.insertIdx 2 (.heading 2 "Implementation")) =
      extract Headings.default "CLC" tableless :=
  ⟨(extract_insertIdx Headings.default "CLC" tableless).1 _ (by decide),
    (extract_insertIdx Headings.default "CLC" tableless).2 2 (.heading 2 "Implementation")
      (by decide) (by decide)⟩

end OpcodeForge.Specification
