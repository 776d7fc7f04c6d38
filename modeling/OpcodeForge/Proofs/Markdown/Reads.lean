import Mathlib.Data.List.Infix
import Mathlib.Data.List.TakeWhile
import OpcodeForge.Markdown.Document
import OpcodeForge.Proofs.Markdown.Lines

/-!
# Reading Block by Block

The blocks of a document are read one after the other, and the number of lines bounds
how many there can be. `Reads` says that lines are read as some nodes whatever the bound,
as long as it is not below the number of lines, so that the block that comes first can
be looked at alone. It is also read independently of how containers are read, since
what is written here has no containers in it.

Empty lines between blocks count for nothing. They matter all the same: with an empty
line below it no line is the header of a table (`table?_of_startsEmpty`).

## Main definitions

* `Markdown.Reads`: What lines of a document are read as.

## Theorems

* `reads_empty`, `reads_block`: Reading what comes first.
* `parse_of_reads`: The nodes of a document are those that its lines are read as.
* `block_heading`: A line of number signs is a heading.
* `block_fence`: A fence holds the lines up to the one that closes it.
-/

namespace OpcodeForge.Markdown

/-- Lines of a document, outside any container, are read as some nodes to the end. -/
def Reads (ls : List Line) (nodes : List Node) : Prop :=
  ∀ (readQuote readItem : Reader) (fuel : Nat), ls.length ≤ fuel →
    blocks readQuote readItem .document fuel ls = (nodes, [])

theorem reads_nil : Reads [] [] := by
  intro readQuote readItem fuel _
  cases fuel with
  | zero => rfl
  | succ k => rfl

/-- An empty line before others counts for nothing. -/
theorem reads_empty (l : Line) (ls : List Line) (nodes : List Node) (hl : l.isEmpty = true)
    (h : Reads ls nodes) : Reads (l :: ls) nodes := by
  intro readQuote readItem fuel hfuel
  cases fuel with
  | zero => exact absurd hfuel (by simp only [List.length_cons]; omega)
  | succ k =>
      rw [List.length_cons] at hfuel
      have hrest := h readQuote readItem (k + 1) (by omega)
      unfold blocks at hrest ⊢
      rw [List.dropWhile_cons_of_pos hl]
      exact hrest

/-- The block that comes first, and then the rest. -/
theorem reads_block (l : Line) (ls rest : List Line) (node : Option Node) (nodes : List Node)
    (hl : l.isEmpty = false) (hlazy : l.lazy = false)
    (hblock : ∀ readQuote readItem,
      block readQuote readItem .document l ls = (node, rest))
    (hlen : rest.length ≤ ls.length) (h : Reads rest nodes) :
    Reads (l :: ls) (node.toList ++ nodes) := by
  intro readQuote readItem fuel hfuel
  cases fuel with
  | zero => exact absurd hfuel (by simp only [List.length_cons]; omega)
  | succ k =>
      rw [List.length_cons] at hfuel
      have hexcludes : Frame.document.excludes l = false := by
        unfold Frame.excludes
        rw [hlazy, Bool.false_or]
        exact decide_eq_false (Nat.not_lt_zero l.indent)
      unfold blocks
      rw [List.dropWhile_cons_of_neg (by rw [hl]; exact Bool.false_ne_true)]
      simp only [hexcludes, Bool.false_eq_true, if_false, hblock,
        h readQuote readItem k (by omega)]

/-- The nodes of a document are those that its lines are read as. -/
theorem parse_of_reads (cs : List Char) (nodes : List Node) (h : Reads (linesOf cs) nodes) :
    parse cs = nodes := by
  have hforest := h (forest 19) (forest 18) (linesOf cs).length (Nat.le_refl _)
  change (blocks (forest 19) (forest 18) .document (linesOf cs).length (linesOf cs)).1 = nodes
  rw [hforest]

/-- With an empty line below it no line is the header of a table. -/
theorem table?_of_startsEmpty (l : Line) (ls : List Line) (h : startsEmpty ls = true) :
    table? .document (l :: ls) = none := by
  unfold table? tableHeader?
  rcases ls with _ | ⟨delimiter, rest⟩
  · rfl
  · have hbody : delimiter.body = [] := List.isEmpty_iff.mp h
    simp only [hbody, isDelimiterLine, Bool.not_false, Bool.or_true, if_true, Option.map_none]

/-- A line without a pipe is not the header of a table. -/
theorem table?_of_not_contains (l : Line) (ls : List Line)
    (h : (trim l.body).contains '|' = false) : table? .document (l :: ls) = none := by
  unfold table? tableHeader?
  rcases ls with _ | ⟨delimiter, rest⟩
  · rfl
  · simp only [h, Bool.false_and, Bool.false_eq_true, if_false]
    split
    · rfl
    · split
      · rfl
      · rfl

theorem fence_ofBody?_of_ne (c : Char) (cs : List Char) (htilde : c ≠ '~')
    (hgrave : c ≠ graveAccent) : Fence.ofBody? (c :: cs) = none := by
  unfold Fence.ofBody?
  simp only [beq_eq_false_iff_ne.mpr htilde, beq_eq_false_iff_ne.mpr hgrave, Bool.false_and,
    Bool.or_self, Bool.false_eq_true, if_false]

theorem listMarker_ofBody?_of_ne (c : Char) (cs : List Char) (hdigit : c.isDigit = false)
    (hbullet : c ≠ '*' ∧ c ≠ '-' ∧ c ≠ '+') : ListMarker.ofBody? (c :: cs) = none := by
  unfold ListMarker.ofBody?
  simp only [List.takeWhile_cons, hdigit, Bool.false_eq_true, if_false, List.length_nil,
    List.drop_zero, List.isEmpty_nil, if_true, beq_eq_false_iff_ne.mpr hbullet.1,
    beq_eq_false_iff_ne.mpr hbullet.2.1, beq_eq_false_iff_ne.mpr hbullet.2.2, Bool.or_self,
    ite_self]

theorem takeWhile_replicate_append (c d : Char) (n : Nat) (cs : List Char) (h : d ≠ c) :
    (List.replicate n c ++ d :: cs).takeWhile (· == c) = List.replicate n c ∧
      (List.replicate n c ++ d :: cs).dropWhile (· == c) = d :: cs := by
  have hall : ∀ x ∈ List.replicate n c, (x == c) = true := by
    intro x hx
    rw [List.eq_of_mem_replicate hx]
    exact beq_self_eq_true c
  rw [List.takeWhile_append_of_pos hall, List.dropWhile_append_of_pos hall]
  simp only [List.takeWhile_cons, List.dropWhile_cons, beq_eq_false_iff_ne.mpr h,
    Bool.false_eq_true, if_false, List.append_nil, and_self]

theorem headingOf?_replicate (depth : Nat) (text : List Char) (h : 1 ≤ depth ∧ depth ≤ 6) :
    headingOf? (List.replicate depth '#' ++ ' ' :: text)
      = some (depth, dropHeadingEnd (' ' :: text)) := by
  have hdepth : (depth == 0 || decide (6 < depth)) = false := by
    rw [Bool.or_eq_false_iff, beq_eq_false_iff_ne, decide_eq_false_iff_not]
    omega
  unfold headingOf?
  rcases takeWhile_replicate_append '#' ' ' depth text (by decide) with ⟨htake, hdrop⟩
  simp only [htake, hdrop, List.length_replicate, hdepth, Bool.false_eq_true, if_false]
  rfl

/-- A line of up to six number signs, a blank and a text is a heading. -/
theorem block_heading (readQuote readItem : Reader) (depth : Nat) (text : List Char)
    (ls : List Line) (hdepth : 1 ≤ depth ∧ depth ≤ 6) (hls : startsEmpty ls = true) :
    block readQuote readItem .document
        (Line.ofChars (List.replicate depth '#' ++ ' ' :: text)) ls
      = (some (.inline (.heading depth) (trim (dropHeadingEnd (' ' :: text)))), ls) := by
  have hheading := headingOf?_replicate depth text hdepth
  rcases Nat.exists_eq_add_of_le' hdepth.1 with ⟨k, rfl⟩
  rw [List.replicate_succ, List.cons_append] at hheading ⊢
  have hfence := fence_ofBody?_of_ne '#' (List.replicate k '#' ++ ' ' :: text) (by decide)
    (by decide)
  have hmarker : listMarker? .document ⟨[], '#' :: (List.replicate k '#' ++ ' ' :: text), 0, 0,
      false⟩ = none :=
    listMarker_ofBody?_of_ne '#' (List.replicate k '#' ++ ' ' :: text) (by decide) (by decide)
  rw [ofChars_cons '#' _ (by decide)]
  unfold block
  rw [table?_of_startsEmpty _ ls hls]
  simp only [hfence, hmarker, hheading]
  rfl

theorem excludes_ofChars (cs : List Char) :
    Frame.document.excludes (Line.ofChars cs) = false := by
  unfold Frame.excludes
  rw [show (Line.ofChars cs).lazy = false from rfl, Bool.false_or]
  exact decide_eq_false (Nat.not_lt_zero (Line.ofChars cs).indent)

/-- The mark of a fence of grave accents, as it is written. -/
def fenceMark : List Char := List.replicate 3 graveAccent

/-- A line that does not hold the mark of the fence does not close it. -/
theorem closedBy_of_not_infix (cs : List Char) (h : ¬fenceMark <:+: cs) :
    (⟨graveAccent, 3⟩ : Fence).closedBy (Line.ofChars cs).body = false := by
  unfold Fence.closedBy
  rw [Bool.and_eq_false_iff]
  refine Or.inl (decide_eq_false fun hlen => h ?_)
  have hbody : (Line.ofChars cs).body = cs.dropWhile Text.isSpaceTab := rfl
  have hmarked := List.takeWhile_prefix (l := (Line.ofChars cs).body) (· == graveAccent)
  have hmarks : (Line.ofChars cs).body.takeWhile (· == graveAccent) = List.replicate
      ((Line.ofChars cs).body.takeWhile (· == graveAccent)).length graveAccent := by
    refine List.eq_replicate_iff.mpr ⟨rfl, fun c hc => ?_⟩
    have hbeq := List.mem_takeWhile_imp hc
    exact eq_of_beq hbeq
  generalize (Line.ofChars cs).body.takeWhile (· == graveAccent) = marks at *
  have hprefix : fenceMark <+: (Line.ofChars cs).body := by
    refine List.IsPrefix.trans ?_ hmarked
    rw [hmarks]
    refine ⟨List.replicate (marks.length - 3) graveAccent, ?_⟩
    rw [fenceMark, List.replicate_append_replicate, Nat.add_sub_cancel' hlen]
  rw [hbody] at hprefix
  exact hprefix.isInfix.trans (List.dropWhile_suffix _).isInfix

/-- The code of a fence ends with the line that closes it. -/
theorem fenceLines_eq (code : List (List Char)) (rest : List Line)
    (h : ∀ part ∈ code, ¬fenceMark <:+: part) :
    fenceLines .document ⟨graveAccent, 3⟩
        (code.map Line.ofChars ++ Line.ofChars fenceMark :: rest)
      = (code.map Line.ofChars, rest) := by
  induction code with
  | nil => rfl
  | cons part more ih =>
      rw [List.map_cons, List.cons_append, fenceLines, excludes_ofChars,
        closedBy_of_not_infix part (h part List.mem_cons_self),
        ih fun x hx => h x (List.mem_cons_of_mem part hx)]
      simp only [Bool.and_false, Bool.false_eq_true, if_false]

/-- A fence holds the lines up to the one that closes it. -/
theorem block_fence (readQuote readItem : Reader) (code : List (List Char)) (rest : List Line)
    (h : ∀ part ∈ code, ¬fenceMark <:+: part) :
    block readQuote readItem .document (Line.ofChars (fenceMark ++ "rust".toList))
        (code.map Line.ofChars ++ Line.ofChars fenceMark :: rest)
      = (some (.leaf .fence (code.flatMap (· ++ ['\n']))), rest) := by
  have hline : Line.ofChars (fenceMark ++ "rust".toList)
      = ⟨[], fenceMark ++ "rust".toList, 0, 0, false⟩ := rfl
  have hfence : Fence.ofBody? (fenceMark ++ "rust".toList) = some ⟨graveAccent, 3⟩ := by decide
  unfold block
  rw [table?_of_not_contains _ _ (by decide)]
  simp only [hline, hfence]
  unfold fencedCode
  simp only [fenceLines_eq code rest h, dedentAll_ofChars]
  rfl

end OpcodeForge.Markdown
