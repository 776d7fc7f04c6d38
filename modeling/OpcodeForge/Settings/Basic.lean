import OpcodeForge.Disk.Path
import OpcodeForge.Specification.Section

/-!
# Settings

What a run can be told: where the documents are and under which headings they say
what, where the outputs go, which reference fills the opcodes that no document
declares, and which addressing modes are enabled.

Settings are read off a configuration value. Only what the reading itself needs is
checked: the value and its parts must be mappings, and the flag of a mode must be a
truth value. Headings and paths are taken as they come and may turn out to be of no
use later on. A part that is empty, or zero, counts as missing.

## Main definitions

* `Settings`: What a run can be told.
* `Settings.default`: What holds if nothing is told.
* `Settings.ofValue`: The settings that a configuration value holds.
* `Settings.resolve`: The settings with their paths as seen from a directory.
-/

namespace OpcodeForge

open Specification (Headings)

/-- What a run can be told. -/
structure Settings where
  specDirectory : Value
  headings : Headings
  instructionsPath : Value
  dispatchPath : Value
  referenceFile : Value
  /-- Flags of addressing modes by their labels. -/
  modes : List (String × Bool)

namespace Settings

/-- What holds if nothing is told. -/
def default : Settings where
  specDirectory := .text "documentations"
  headings := .default
  instructionsPath := .text "src/cpu/instructions.rs"
  dispatchPath := .text "src/cpu/clock.rs"
  referenceFile := .null
  modes := []

/-- The entries of a part of the configuration that must be a mapping. A part that
    is missing, empty or zero has none. -/
def part (entries : List (Value × Value)) (name : String) :
    Except Halt (List (Value × Value)) :=
  match Value.lookup entries name with
  | none => .ok []
  | some v =>
    -- What is empty is not asked for its kind.
    if !v.isTruthy then .ok []
    else
      match v.entries? with
      | some es => .ok es
      | none => .error (.defect .notAMapping)

/-- The value of an entry, or another one if there is none. -/
def getOr (entries : List (Value × Value)) (name : String) (other : Value) : Value :=
  (Value.lookup entries name).getD other

/-- Sets a flag in the place of the one with its label, or at the end. -/
def setFlag (label : String) (flag : Bool) : List (String × Bool) → List (String × Bool)
  | [] => [(label, flag)]
  | (l, f) :: rest =>
    if l = label then (l, flag) :: rest else (l, f) :: setFlag label flag rest

/-- The flag that an entry sets, and its label. -/
def flagOf (label flag : Value) : Except Halt (String × Bool) :=
  match flag with
  | .bool b =>
    if label.isWritable then .ok (label.plain, b) else .error (.defect .numberTooLong)
  | _ =>
    -- The report names both, so both must have a text.
    if label.isWritable && flag.isWritable then
      .error (.failure (.config (.flagNotTruth label.plain flag)))
    else .error (.defect .numberTooLong)

/-- The flags that entries set, after those in `flags`. -/
def flagsOf (flags : List (String × Bool)) :
    List (Value × Value) → Except Halt (List (String × Bool))
  | [] => .ok flags
  | (label, flag) :: rest => do
    let (l, f) ← flagOf label flag
    flagsOf (setFlag l f flags) rest

/-- The headings that entries configure. -/
def headingsOf (entries : List (Value × Value)) : Headings where
  addressing := getOr entries "addressing" Headings.default.addressing
  implementation := getOr entries "implementation" Headings.default.implementation
  additionalCodes := getOr entries "additional_codes" Headings.default.additionalCodes

/-- The settings that the entries of a configuration hold. -/
def ofEntries (entries : List (Value × Value)) : Except Halt Settings := do
  let headings ← part entries "headings"
  let output ← part entries "output"
  -- Of several faults the first part that has one is reported.
  let modes ← flagsOf [] (← part entries "modes")
  return {
    specDirectory := getOr entries "spec_dir" default.specDirectory
    headings := headingsOf headings
    instructionsPath := getOr output "instructions" default.instructionsPath
    dispatchPath := getOr output "clock" default.dispatchPath
    referenceFile := getOr entries "reference_file" default.referenceFile
    modes := modes }

/-- The settings that a configuration value holds. -/
def ofValue (v : Value) : Except Halt Settings :=
  match v.entries? with
  | some entries => ofEntries entries
  | none => .error (.failure (.config .rootNotMapping))

/-- A configured path as seen from a directory. Bytes cannot be joined to a text,
    so they must be absolute. -/
def resolvePath (base : String) (v : Value) : Except Halt Value :=
  match v with
  | .text s => .ok (.text (Path.join base s))
  | .bytes bs => if bs.head? = some 47 then .ok v else .error (.defect .notAPath)
  | _ => .error (.defect .notAPath)

/-- The settings with their paths as seen from a directory. -/
def resolve (s : Settings) (base : String) : Except Halt Settings := do
  let specDirectory ← resolvePath base s.specDirectory
  let instructionsPath ← resolvePath base s.instructionsPath
  let dispatchPath ← resolvePath base s.dispatchPath
  let referenceFile ←
    -- Without a reference there is no path to resolve.
    if s.referenceFile.isTruthy then resolvePath base s.referenceFile
    else pure s.referenceFile
  return { s with
    specDirectory := specDirectory
    instructionsPath := instructionsPath
    dispatchPath := dispatchPath
    referenceFile := referenceFile }

end Settings

end OpcodeForge
