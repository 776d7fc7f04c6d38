import OpcodeForge.Text.Pieces

/-!
# Cutting at Separators

How the pieces of a text follow from those of its parts. A separator between two parts
cuts them apart for good, and a part without separators is one piece. Both are about
the text on one side of a separator only, which is what lets a path be read by its
names and a document by its lines.

## Theorems

* `pieces_of_not_mem`: A text without separators is one piece.
* `pieces_append_cons`: A separator cuts a text in two.
* `pieces_flatMap`: A text of lines has these lines as its pieces.
* `flatMap_pieces`: A text is put together from its lines.
* `infix_of_mem_pieces`: A piece is a part of the text.
* `intercalate_append`: Parts with separators between them and one at the end are lines.
-/

namespace OpcodeForge.Text

theorem pieces_of_not_mem (separator : Char) (cs : List Char) (h : separator ∉ cs) :
    pieces separator cs = [cs] := by
  induction cs with
  | nil => rfl
  | cons c rest ih =>
      rw [List.mem_cons, not_or] at h
      unfold pieces
      rw [if_neg (Ne.symm h.1), ih h.2]

theorem pieces_append_cons (separator : Char) (cs ds : List Char) :
    pieces separator (cs ++ separator :: ds)
      = pieces separator cs ++ pieces separator ds := by
  induction cs with
  | nil =>
      change pieces separator (separator :: ds) = [] :: pieces separator ds
      rw [pieces, if_pos rfl]
  | cons c rest ih =>
      rcases List.exists_cons_of_ne_nil (pieces_ne_nil separator rest) with ⟨piece, more, hp⟩
      rw [List.cons_append, pieces, pieces, ih, hp]
      by_cases hc : c = separator
      · rw [if_pos hc, if_pos hc]
        rfl
      · rw [if_neg hc, if_neg hc]
        rfl

/-- Parts with a separator after each of them are the pieces, and nothing comes after
    the last separator. -/
theorem pieces_flatMap (separator : Char) (parts : List (List Char))
    (h : ∀ part ∈ parts, separator ∉ part) :
    pieces separator (parts.flatMap (· ++ [separator])) = parts ++ [[]] := by
  induction parts with
  | nil => rfl
  | cons part rest ih =>
      rw [List.flatMap_cons, List.append_assoc, List.singleton_append, pieces_append_cons,
        pieces_of_not_mem separator part (h part List.mem_cons_self),
        ih fun x hx => h x (List.mem_cons_of_mem part hx)]
      rfl

/-- The pieces with a separator after each of them are the text with one at its end. -/
theorem flatMap_pieces (separator : Char) (cs : List Char) :
    (pieces separator cs).flatMap (· ++ [separator]) = cs ++ [separator] := by
  induction cs with
  | nil => rfl
  | cons c rest ih =>
      rcases List.exists_cons_of_ne_nil (pieces_ne_nil separator rest) with ⟨piece, more, hp⟩
      unfold pieces
      by_cases hc : c = separator
      · rw [if_pos hc, List.flatMap_cons, ih, hc]
        rfl
      · rw [hp, List.flatMap_cons] at ih
        rw [if_neg hc, hp, List.cons_append, ← ih]
        rfl

theorem infix_of_mem_pieces (separator : Char) (cs piece : List Char)
    (h : piece ∈ pieces separator cs) : piece <:+: cs := by
  rcases List.append_of_mem h with ⟨before, after, hsplit⟩
  have hall := flatMap_pieces separator cs
  rw [hsplit, List.flatMap_append, List.flatMap_cons] at hall
  rcases List.eq_nil_or_concat after with rfl | ⟨init, last, rfl⟩
  · -- The last piece ends before the separator that was added.
    rw [List.flatMap_nil, List.append_nil, ← List.append_assoc] at hall
    exact ⟨before.flatMap (· ++ [separator]), [], by
      rw [List.append_nil, List.append_cancel_right hall]⟩
  · rw [List.concat_eq_append, List.flatMap_append, List.flatMap_cons, List.flatMap_nil,
      List.append_nil] at hall
    refine ⟨before.flatMap (· ++ [separator]),
      [separator] ++ (init.flatMap (· ++ [separator]) ++ last), ?_⟩
    rw [← List.append_left_inj [separator], ← hall]
    simp only [List.append_assoc]

/-- Parts with separators between them, and one more at the end, have one after each of them. -/
theorem intercalate_append (separator first : List Char) (more : List (List Char)) :
    separator.intercalate (first :: more) ++ separator
      = (first :: more).flatMap (· ++ separator) := by
  induction more generalizing first with
  | nil => rw [List.intercalate_singleton, List.flatMap_singleton]
  | cons second more ih =>
      rw [List.intercalate_cons_cons, List.flatMap_cons, ← ih second]
      simp only [List.append_assoc]

end OpcodeForge.Text
