import OpcodeForge.Markdown.Line
import OpcodeForge.Proofs.Text.LineEnds
import OpcodeForge.Proofs.Text.Pieces

/-!
# Lines of a Written Document

A document that is written line by line is read by the same lines. Two things can get
in the way. A carriage return ends a line although it is no line feed, so there must be
none. A character of value zero is replaced, so a line that has one is not read as it
was written, but it stays one line.

The last line is dropped if nothing but blanks is in it, which is what is left after
the last line feed.

## Main definitions

* `Markdown.visible`: A character as it is read.

## Theorems

* `linesOf_flatMap`: The lines of a document that is written line by line.
* `dedentAll_ofChars`: Lines outside any container give their text back.
-/

namespace OpcodeForge

namespace Markdown

/-- A character as it is read. -/
def visible (c : Char) : Char :=
  if c == '\x00' then '\uFFFD' else c

theorem visible_eq_lineFeed (c : Char) (h : visible c = '\n') : c = '\n' := by
  unfold visible at h
  split at h
  · exact absurd h (by decide)
  · exact h

theorem map_visible_eq_self (cs : List Char) (h : '\x00' ∉ cs) : cs.map visible = cs := by
  refine (List.map_congr_left fun c hc => ?_).trans (List.map_id cs)
  unfold visible
  have hne : ¬(c == '\x00') = true := by
    intro hzero
    rw [beq_iff_eq] at hzero
    exact h (hzero ▸ hc)
  rw [if_neg hne]
  rfl

theorem normalize_flatMap (parts : List (List Char)) (h : ∀ part ∈ parts, '\r' ∉ part) :
    normalize (parts.flatMap (· ++ ['\n']))
      = (parts.map (List.map visible)).flatMap (· ++ ['\n']) := by
  have hreturn : '\r' ∉ parts.flatMap (· ++ ['\n']) := by
    intro hmem
    rcases List.mem_flatMap.mp hmem with ⟨part, hpart, hr⟩
    rcases List.mem_append.mp hr with hr | hr
    · exact h part hpart hr
    · exact absurd hr (by decide)
  unfold normalize
  rw [Text.unixLines_eq_self _ hreturn, List.map_flatMap, List.flatMap_map]
  refine congrArg (fun f => parts.flatMap f) (funext fun part => ?_)
  rw [List.map_append]
  rfl

/-- The lines of a document that is written line by line. -/
theorem linesOf_flatMap (parts : List (List Char))
    (h : ∀ part ∈ parts, '\n' ∉ part ∧ '\r' ∉ part) :
    linesOf (parts.flatMap (· ++ ['\n']))
      = parts.map fun part => Line.ofChars (part.map visible) := by
  have hfeed : ∀ part ∈ parts.map (List.map visible), '\n' ∉ part := by
    intro part hpart hmem
    rcases List.mem_map.mp hpart with ⟨source, hsource, rfl⟩
    rcases List.mem_map.mp hmem with ⟨c, hc, hv⟩
    exact (h source hsource).1 (visible_eq_lineFeed c hv ▸ hc)
  unfold linesOf
  rw [normalize_flatMap parts fun part hpart => (h part hpart).2,
    Text.pieces_flatMap '\n' _ hfeed]
  unfold dropBlankEnd
  rw [List.getLast?_concat]
  simp only [List.all_nil, if_true, List.dropLast_concat, List.map_map]
  rfl

/-- A line that starts with something else than a blank. -/
theorem ofChars_cons (c : Char) (cs : List Char) (h : Text.isSpaceTab c = false) :
    Line.ofChars (c :: cs) = ⟨[], c :: cs, 0, 0, false⟩ := by
  unfold Line.ofChars
  rw [List.takeWhile_cons_of_neg (by rw [h]; exact Bool.false_ne_true),
    List.dropWhile_cons_of_neg (by rw [h]; exact Bool.false_ne_true)]
  rfl

/-- Outside any container there are no columns to cut off. -/
theorem dedent_ofChars (cs : List Char) : (Line.ofChars cs).dedent 0 = cs := by
  have hdrop : ∀ lead, dropColumns 0 0 0 lead = (0, lead) := by
    intro lead
    cases lead with
    | nil => rfl
    | cons c rest => rfl
  unfold Line.dedent
  simp only [show (Line.ofChars cs).offset = 0 from rfl, hdrop, List.replicate_zero,
    List.nil_append]
  exact List.takeWhile_append_dropWhile

/-- Lines outside any container give their text back. -/
theorem dedentAll_ofChars (parts : List (List Char)) :
    dedentAll 0 (parts.map Line.ofChars) = parts.flatMap (· ++ ['\n']) := by
  unfold dedentAll
  rw [List.flatMap_map]
  refine congrArg (fun f => parts.flatMap f) (funext fun part => ?_)
  rw [dedent_ofChars]

end Markdown

end OpcodeForge
