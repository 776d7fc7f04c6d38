import OpcodeForge.Text.Encoding

/-!
# Line Ends

Lines end in a line feed, in a carriage return, or in both. A text may mix the three, and a
carriage return belongs to the line feed right after it and to no other: two of them before a
line feed end two lines, and one at the end of a text ends its last line.

`Text.ReadsAs` says this without reading from the left, and so says which texts are the same but
for the ends of their lines: those that read as one text.

## Main definitions

* `Text.ReadsAs`: A text and its lines, each ended by a line feed.

## Theorems

* `Text.readsAs_iff`: A text reads as one text only, and reading finds it.
* `Text.unixLines_eq_self`: A text without carriage returns has its lines already.
-/

namespace OpcodeForge.Text

/-- What a text reads as: every end of a line is a line feed. -/
inductive ReadsAs : List Char → List Char → Prop
  | nil : ReadsAs [] []
  /-- A carriage return and the line feed after it end one line. -/
  | pair (rest ls : List Char) (h : ReadsAs rest ls) :
      ReadsAs ('\r' :: '\n' :: rest) ('\n' :: ls)
  /-- A carriage return without one ends a line of its own. -/
  | lone (rest ls : List Char) (hhead : rest.head? ≠ some '\n') (h : ReadsAs rest ls) :
      ReadsAs ('\r' :: rest) ('\n' :: ls)
  | other (c : Char) (rest ls : List Char) (hc : c ≠ '\r') (h : ReadsAs rest ls) :
      ReadsAs (c :: rest) (c :: ls)

theorem unixLines_of_readsAs (cs ls : List Char) (h : ReadsAs cs ls) : unixLines cs = ls := by
  induction h with
  | nil => rfl
  | pair rest ls _ ih => rw [unixLines, ih]
  | lone rest ls hhead _ ih =>
      rw [unixLines, ih]
      intro more hrest
      rw [hrest] at hhead
      exact hhead rfl
  | other c rest ls hc _ ih =>
      rw [unixLines, ih]
      · exact fun _ hc' _ => hc hc'
      · exact hc

theorem readsAs_unixLines (cs : List Char) : ReadsAs cs (unixLines cs) := by
  induction cs using unixLines.induct with
  | case1 => exact .nil
  | case2 rest ih => exact .pair rest _ ih
  | case3 rest hrest ih =>
      rw [unixLines]
      · refine .lone rest _ (fun hhead => ?_) ih
        rcases List.head?_eq_some_iff.mp hhead with ⟨more, hmore⟩
        exact hrest more hmore
      · exact hrest
  | case4 c rest hpair hc ih =>
      rw [unixLines]
      · exact .other c rest _ hc ih
      · exact hpair
      · exact hc

/-- A text reads as one text only, and that is the one that reading finds. -/
theorem readsAs_iff (cs ls : List Char) : ReadsAs cs ls ↔ unixLines cs = ls :=
  ⟨unixLines_of_readsAs cs ls, fun h => h ▸ readsAs_unixLines cs⟩

/-- A text without carriage returns has its lines already. -/
theorem unixLines_eq_self (cs : List Char) (h : '\r' ∉ cs) : unixLines cs = cs := by
  induction cs with
  | nil => rfl
  | cons c rest ih =>
      rw [List.mem_cons, not_or] at h
      unfold unixLines
      split
      · rename_i heq
        exact absurd heq (List.cons_ne_nil c rest)
      · rename_i heq
        exact absurd (List.cons.inj heq).1.symm h.1
      · rename_i heq
        exact absurd (List.cons.inj heq).1.symm h.1
      · rename_i heq
        rw [← (List.cons.inj heq).1, ← (List.cons.inj heq).2, ih h.2]

end OpcodeForge.Text
