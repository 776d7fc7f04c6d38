import OpcodeForge.Log
import OpcodeForge.Specification.Block
import OpcodeForge.Specification.Instruction

/-!
# Sections of a Specification

A specification is found in a document by its headings. The first heading of the
second depth with the right text starts a section, and the section is the one
block right after it; nothing else in the document matters. Texts are compared
exactly, and a configured heading that is no text matches nothing.

The implementation must be there. A missing table, or further code that is no text,
is worth a warning.

## Main definitions

* `Specification.Headings`: The headings of the three sections.
* `Specification.extract`: The instruction that blocks specify, and the warnings.
-/

namespace OpcodeForge.Specification

/-- The headings of the three sections, as they are configured. -/
structure Headings where
  addressing : Value
  implementation : Value
  additionalCodes : Value

/-- The headings that documents use by default. -/
def Headings.default : Headings :=
  ⟨.text "Addresing Modes", .text "Implementation", .text "Additional Codes"⟩

/-- The depth of the headings that start a section. -/
def sectionDepth : Nat := 2

/-- Whether a block is the heading of a section. -/
def isHeading (heading : Value) : Block → Bool
  | .heading depth text =>
    depth == sectionDepth && (match heading with
      | .text s => s == text
      | _ => false)
  | _ => false

/-- Whether a heading occurs among blocks. -/
def hasHeading (heading : Value) (bs : List Block) : Bool :=
  bs.any (isHeading heading)

/-- The block after the first occurrence of a heading. -/
def sectionAfter? (heading : Value) : List Block → Option Block
  | [] => none
  | b :: bs => if isHeading heading b then bs.head? else sectionAfter? heading bs

/-- The text of a block, if it is a text. -/
def Block.text? : Block → Option String
  | .text _ s => some s
  | _ => none

/-- The rows of a block, if it is a table. -/
def Block.rows? : Block → Option (List Opcode.Row)
  | .table _ rows => some (rows.map Opcode.Row.mk)
  | _ => none

/-- The warning that a document has no table. -/
def noTableWarning (identifier : String) (heading : Value) : Log.Line :=
  ⟨.warning, identifier ++ ": no '" ++ heading.plain ++ "' table, body only"⟩

/-- The warning that further code is no text. -/
def noTextWarning (identifier : String) (heading : Value) : Log.Line :=
  ⟨.warning,
    identifier ++ ": '" ++ heading.plain ++ "' is not followed by a text block, ignored"⟩

/-- The instruction that blocks specify, and the warnings about them. -/
def extract (headings : Headings) (identifier : String) (bs : List Block) :
    Except Failure (Instruction × List Log.Line) :=
  match (sectionAfter? headings.implementation bs).bind Block.text? with
  | none =>
    -- A heading with something else after it is not a missing one.
    let fault := if hasHeading headings.implementation bs then .noText else .missing
    .error (.structural identifier headings.implementation fault)
  | some implementation =>
    let rows := (sectionAfter? headings.addressing bs).bind Block.rows?
    let additional := (sectionAfter? headings.additionalCodes bs).bind Block.text?
    -- The warnings come in the order of the sections, the table first.
    let tableWarnings :=
      if rows.isSome then [] else [noTableWarning identifier headings.addressing]
    let codeWarnings :=
      if additional.isNone && hasHeading headings.additionalCodes bs then
        [noTextWarning identifier headings.additionalCodes]
      else []
    .ok (⟨identifier, implementation, rows, additional.getD ""⟩,
      tableWarnings ++ codeWarnings)

end OpcodeForge.Specification
