import OpcodeForge.Disk.Basic
import OpcodeForge.Number.Hex
import OpcodeForge.Value.Text
import OpcodeForge.Yaml.Cursor

/-!
# Failures

What can go wrong, by its cause. A failure is a report to the user, and `message`
is the only place that puts one into words. Causes that come from elsewhere as
text have a `stated` form.

A defect is a fault of the input that has no report: the run stops there. Most of
them are configuration values of a kind that nothing can be done with. A `Halt` is
either of the two.

## Main definitions

* `Failure`: A report to the user.
* `Failure.message`: The report in words.
* `Defect`: A fault without a report.
* `Halt`: Why an operation gives no answer.
-/

namespace OpcodeForge

/-- Why a configuration or reference file cannot be used. -/
inductive ConfigFault
  | rootNotMapping
  | flagNotTruth (label : String) (flag : Value)
  | configUnreadable (path quotedPath : String) (fault : Disk.Fault)
  | referenceUnreadable (path quotedPath : String) (fault : Disk.Fault)
  | malformed (path : String)
  | referenceLength (path : String)
  | referenceEntry (index : Nat)
  | badInteger (value : Value)
  | unknownLabel (label : String)
  /-- A reference table does not have a row for each byte. -/
  | referenceRows (count : Nat)
  | stated (text : String)

/-- Why a document cannot be read. -/
inductive ReadFault
  | notText (fault : Text.DecodeFault)
  | refused (fault : Disk.Fault)
  | stated (reason : String)

/-- Why an output cannot be written. -/
inductive WriteFault
  | isDirectory
  | refused (fault : Disk.Fault)
  | stated (reason : String)

/-- What is wrong with a section that must be there. -/
inductive SectionFault
  | missing
  | noText
  | stated (detail : String)

/-- Why a row of a table cannot be used. -/
inductive RowFault
  | tooShort (width : Nat)
  | badOpcode (cell : String)
  | badCycles (text : String)
  | stated (reason : String)

/-- A report to the user. -/
inductive Failure
  | plain (text : String)
  | specDirectory (path : String)
  | config (fault : ConfigFault)
  | specRead (identifier path : String) (fault : ReadFault)
  | outputWrite (path : String) (fault : WriteFault)
  | structural (identifier : String) (heading : Value) (fault : SectionFault)
  | unsupportedMode (identifier label opcodeText : String)
  | opcodeConflict (opcode : Int) (first second : String)
  | malformedRow (identifier : String) (cells : List String) (fault : RowFault)
  | generation (failures : List Failure)

/-- The number of columns that a row of a table needs. -/
def minColumns : Nat := 5

/-- The number of opcodes. -/
def opcodeSpace : Nat := 256

/-- A fault of the disk with the path it is about. -/
def osErrorText (fault : Disk.Fault) (quotedPath : String) : String :=
  "[Errno " ++ Number.decimalNat fault.number ++ "] " ++ fault.message ++ ": "
    ++ quotedPath

/-- The fault in words. -/
def ConfigFault.message : ConfigFault → String
  | .rootNotMapping => "Config root must be a mapping"
  | .flagNotTruth label flag =>
    "Mode flag for '" ++ label ++ "' must be true or false, got " ++ flag.shown
  | .configUnreadable path quotedPath fault =>
    "Cannot read config file " ++ path ++ ": " ++ osErrorText fault quotedPath
  | .referenceUnreadable path quotedPath fault =>
    "Cannot read reference file " ++ path ++ ": " ++ osErrorText fault quotedPath
  | .malformed path => "Invalid YAML in " ++ path
  | .referenceLength path =>
    "Reference file " ++ path ++ " must list exactly "
      ++ Number.decimalNat opcodeSpace ++ " entries"
  | .referenceEntry index =>
    "Reference entry 0x" ++ Number.hexKey index ++ " needs 'name' and 'cycles'"
  | .badInteger value => "Invalid integer format: " ++ value.plain
  | .unknownLabel label =>
    "Unknown addressing mode label in config: '" ++ label ++ "'"
  | .referenceRows count =>
    "Opcode reference must have " ++ Number.decimalNat opcodeSpace ++ " rows, got "
      ++ Number.decimalNat count
  | .stated text => text

/-- The fault in words. -/
def ReadFault.message : ReadFault → String
  | .notText fault =>
    "not valid UTF-8 (" ++ fault.reason.message ++ " at byte "
      ++ Number.decimalNat fault.index ++ ")"
  | .refused fault => fault.message
  | .stated reason => reason

/-- The fault in words. -/
def WriteFault.message : WriteFault → String
  | .isDirectory => "destination is a directory"
  | .refused fault => fault.message
  | .stated reason => reason

/-- The fault in words. -/
def SectionFault.message : SectionFault → String
  | .missing => "missing section"
  | .noText => "no text block after"
  | .stated detail => detail

/-- The fault in words. -/
def RowFault.message : RowFault → String
  | .tooShort width =>
    "expected at least " ++ Number.decimalNat minColumns ++ " columns, got "
      ++ Number.decimalNat width
  | .badOpcode cell => "invalid opcode field '" ++ cell ++ "'"
  | .badCycles text => "invalid cycle field '" ++ text ++ "'"
  | .stated reason => reason

mutual

/-- The report in words. -/
def Failure.message : Failure → String
  | .plain text => text
  | .specDirectory path => "Spec directory not found: " ++ path
  | .config fault => fault.message
  | .specRead identifier path fault =>
    identifier ++ ": cannot read " ++ path ++ ": " ++ fault.message
  | .outputWrite path fault => "Cannot write " ++ path ++ ": " ++ fault.message
  | .structural identifier heading fault =>
    identifier ++ ": " ++ fault.message ++ " '## " ++ heading.plain ++ "'"
  | .unsupportedMode identifier label opcodeText =>
    identifier ++ ": unsupported addressing mode '" ++ label ++ "' for opcode "
      ++ opcodeText
  | .opcodeConflict opcode first second =>
    "opcode 0x" ++ Number.hexKey opcode ++ " declared by both " ++ first ++ " and "
      ++ second
  | .malformedRow identifier cells fault =>
    identifier ++ ": " ++ fault.message ++ " in row | "
      ++ " | ".intercalate cells ++ " |"
  | .generation failures =>
    Number.decimalNat failures.length ++ " error(s) detected:"
      ++ String.join (itemMessages failures)

/-- Each of several reports in words, in a line of its own. -/
def itemMessages : List Failure → List String
  | [] => []
  | f :: fs => ("\n  - " ++ f.message) :: itemMessages fs

end

/-- Why a dispatch table cannot be rendered. -/
inductive ClockFault
  /-- An opcode is not written with two digits. -/
  | wideKey (key : String)
  | unsupportedMode (key mode : String)
  deriving DecidableEq, Repr

/-- The fault in words. -/
def ClockFault.message : ClockFault → String
  | .wideKey key => "Opcode key '" ++ key ++ "' is not 2 hex digits wide"
  | .unsupportedMode key mode =>
    "Opcode 0x" ++ key ++ " references unsupported addressing mode '" ++ mode ++ "'"

/-- A fault of the input that has no report. -/
inductive Defect
  /-- A row lacks the column that is asked for. -/
  | columnMissing
  /-- An opcode has no slot. -/
  | slotOutOfRange
  /-- A value stands where a path should. -/
  | notAPath
  /-- A path has a character that no name can have. -/
  | badPath
  /-- A value stands where a mapping should. -/
  | notAMapping
  /-- An integer has too many decimal digits to be read or written. -/
  | numberTooLong
  /-- A file that is read as text is none. -/
  | notText (fault : Text.DecodeFault)
  /-- A value cannot be built from a configuration text. -/
  | value (fault : Yaml.Fault)
  | clock (fault : ClockFault)
  deriving DecidableEq, Repr

/-- Why an operation gives no answer. -/
inductive Halt
  | failure (f : Failure)
  | defect (d : Defect)

end OpcodeForge
