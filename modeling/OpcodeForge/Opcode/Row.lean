import OpcodeForge.Failure
import OpcodeForge.Text.Blank
import OpcodeForge.Text.Digit

/-!
# Specification Rows

A row of the table of a specification declares one opcode. Its columns are the
label of the addressing mode, the syntax, the opcode, the number of bytes and the
cycles; further columns are allowed and ignored.

The opcode is a cell of three characters, of which the last two are hexadecimal
digits. The cycles are decimal digits of any script, and a plus behind them says
that crossing a page costs more.

## Main definitions

* `Opcode.Row`: A row of a table.
* `Opcode.Row.opcode`: The opcode that it declares.
* `Opcode.Row.cycles`: The number of cycles.
* `Opcode.Row.pageCross`: Whether crossing a page costs more.
-/

namespace OpcodeForge.Opcode

/-- A row of the table of a specification. -/
structure Row where
  cells : List String
  deriving DecidableEq, Repr

namespace Row

/-- A report about a row. -/
def report (identifier : String) (r : Row) (fault : RowFault) : Halt :=
  .failure (.malformedRow identifier r.cells fault)

/-- Checks that a row has all columns. -/
def checkShape (identifier : String) (r : Row) : Except Halt Unit :=
  if r.cells.length < minColumns then
    .error (r.report identifier (.tooShort r.cells.length))
  else .ok ()

/-- A cell of a row. -/
def cell (r : Row) (column : Nat) : Except Halt String :=
  match r.cells[column]? with
  | some s => .ok s
  | none => .error (.defect .columnMissing)

/-- The label of the addressing mode. -/
def label (r : Row) : Except Halt String :=
  r.cell 0

/-- The second and the third character of a text. -/
def opcodePart (s : String) : List Char :=
  (s.toList.drop 1).take 2

/-- The digits of the opcode, before they are checked. -/
def opcodeText (r : Row) : Except Halt String :=
  (r.cell 2).map fun s => String.ofList (opcodePart s)

/-- The cycles without the blanks around them. -/
def cyclesText (r : Row) : Except Halt String :=
  (r.cell 4).map fun s => String.ofList (Text.trim s.toList)

/-- The opcode that a cell holds. -/
def opcodeOf? (cell : List Char) : Option Nat :=
  match cell with
  | [_, high, low] =>
    match Text.hexValue? high, Text.hexValue? low with
    | some h, some l => some (h * 16 + l)
    | _, _ => none
  | _ => none

/-- The opcode that a row declares. -/
def opcode (identifier : String) (r : Row) : Except Halt Nat := do
  let s ← r.cell 2
  match opcodeOf? s.toList with
  | some n => .ok n
  | none => .error (r.report identifier (.badOpcode s))

/-- The digits of a cycle field and whether a plus follows them. -/
def cyclesOf? (text : List Char) : Option (List Nat × Bool) :=
  let digits := (text.takeWhile Text.isDigit).filterMap Text.digitValue?
  let rest := (text.dropWhile Text.isDigit).dropWhile Text.isBlank
  if digits.isEmpty then none
  else if rest = [] then some (digits, false)
  -- Blanks may stand before the plus, but nothing after it.
  else if rest = ['+'] then some (digits, true)
  else none

/-- The number of cycles. -/
def cycles (identifier : String) (r : Row) : Except Halt Nat := do
  let s ← r.cyclesText
  match cyclesOf? s.toList with
  | none => .error (r.report identifier (.badCycles s))
  | some (digits, _) =>
    -- The digits fit the form, but there are too many of them to be read.
    if Number.maxDigits < digits.length then .error (.defect .numberTooLong)
    else .ok (Number.foldDigits 10 0 digits)

/-- Whether crossing a page costs more. -/
def pageCross (r : Row) : Except Halt Bool :=
  r.cyclesText.map fun s => s.toList.getLast? == some '+'

end Row

end OpcodeForge.Opcode
