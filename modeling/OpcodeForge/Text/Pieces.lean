/-!
# Pieces of a Text

Lines, cells, names of a path and groups of a number are all pieces of a text
between separators. There is always one piece more than separators, so the
empty text has one piece, which is empty.

## Main definitions

* `Text.pieces`: The pieces of a text between separators.

## Theorems

* `Text.pieces_ne_nil`: There is at least one piece.
* `Text.not_mem_of_mem_pieces`: No piece holds a separator.
-/

namespace OpcodeForge.Text

/-- The pieces of a text between separators, at least one. -/
def pieces (separator : Char) : List Char → List (List Char)
  | [] => [[]]
  | c :: rest =>
    if c = separator then [] :: pieces separator rest
    else
      match pieces separator rest with
      -- There is no such case, but the recursion cannot tell.
      | [] => [[c]]
      | piece :: more => (c :: piece) :: more

theorem pieces_ne_nil (separator : Char) (cs : List Char) :
    pieces separator cs ≠ [] := by
  cases cs with
  | nil => simp [pieces]
  | cons c rest =>
    unfold pieces
    split
    · simp
    · split <;> simp

/-- No piece holds a separator. -/
theorem not_mem_of_mem_pieces (separator : Char) (cs piece : List Char)
    (h : piece ∈ pieces separator cs) : separator ∉ piece := by
  induction cs generalizing piece with
  | nil => simp_all [pieces]
  | cons c rest ih =>
    obtain ⟨first, more, hp⟩ := List.exists_cons_of_ne_nil (pieces_ne_nil separator rest)
    by_cases hc : c = separator
    · simp only [pieces, hc, if_true, List.mem_cons] at h
      rcases h with rfl | h
      · simp
      · exact ih piece h
    · simp only [pieces, hc, if_false, hp, List.mem_cons] at h
      rcases h with rfl | h
      · have hf := ih first (by simp [hp])
        simp [Ne.symm hc, hf]
      · exact ih piece (by simp [hp, h])

end OpcodeForge.Text
