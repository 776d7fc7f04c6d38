import OpcodeForge.Opcode.Entry

/-!
# Dispatch Tables

Entries in the order of their opcodes. Entries of one opcode stay in the order in
which they were given.

The default entries call instructions that need not be specified. Those that are
not get an empty body, each under one name, whatever the case of the letters.

## Main definitions

* `Opcode.Table`: Entries in order.
* `Opcode.Table.ofList`: The table of a list of entries.
* `Opcode.Table.placeholders`: The names that need an empty body.

## Theorems

* `Opcode.Table.perm_ofList`: A table has the entries it was built from.
* `Opcode.Table.pairwise_ofList`: The opcodes of a table ascend.
-/

namespace OpcodeForge.Opcode

/-- Whether one entry may stand before another. -/
def Entry.notAfter (a b : Entry) : Bool :=
  a.opcode ≤ b.opcode

/-- Entries in the order of their opcodes. -/
structure Table where
  entries : List Entry
  deriving DecidableEq, Repr

namespace Table

/-- The table of a list of entries. -/
def ofList (es : List Entry) : Table :=
  ⟨es.mergeSort Entry.notAfter⟩

/-- The number of entries. -/
def size (t : Table) : Nat := t.entries.length

/-- The lower case names of the default entries that are not defined, each once and
    in the order of the table. -/
def undefinedNames (defined : List String) (found : List String) :
    List Entry → List String
  | [] => found
  | e :: es =>
    -- Bodies are known by their lower case names, so these are compared.
    let name := Text.lower e.instruction
    if e.isDefault && !defined.contains name && !found.contains name then
      undefinedNames defined (found ++ [name]) es
    else undefinedNames defined found es

/-- The names that need an empty body, in alphabetical order, when instructions with
    the given names are defined. -/
def placeholders (t : Table) (defined : List String) : List String :=
  (undefinedNames (defined.map Text.lower) [] t.entries).mergeSort
    fun a b => decide (a ≤ b)

theorem perm_ofList (es : List Entry) : (ofList es).entries.Perm es :=
  List.mergeSort_perm es Entry.notAfter

theorem pairwise_ofList (es : List Entry) :
    (ofList es).entries.Pairwise fun a b => a.opcode ≤ b.opcode := by
  have htrans : ∀ a b c : Entry, a.notAfter b = true → b.notAfter c = true →
      a.notAfter c = true := by
    intro a b c hab hbc
    simp only [Entry.notAfter, decide_eq_true_eq] at *
    omega
  have htotal : ∀ a b : Entry, (a.notAfter b || b.notAfter a) = true := by
    intro a b
    simp only [Entry.notAfter, Bool.or_eq_true, decide_eq_true_eq]
    omega
  exact (List.pairwise_mergeSort htrans htotal es).imp fun hab => by
    simpa [Entry.notAfter] using hab

end Table

end OpcodeForge.Opcode
