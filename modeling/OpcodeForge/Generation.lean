import OpcodeForge.Opcode.Builder
import OpcodeForge.Opcode.DefaultReference
import OpcodeForge.Opcode.ReferenceFile
import OpcodeForge.Output
import OpcodeForge.Rendering.Bodies
import OpcodeForge.Rendering.Dispatch
import OpcodeForge.Specification.Library

/-!
# Generation

A run reads all documents, collects what they declare over the defaults of the
reference, and renders the two outputs. Everything that is wrong with the documents,
the reference and the rows is collected first and reported in one go; outputs are
rendered only if nothing is wrong, and written only after both are rendered.

The registry and the reference of a run are fixed before its documents are looked
at. A fault of the configuration is therefore found even if there are no documents.

A report names the heading of a section that is missing. Headings are taken as they are
configured, so one can be an integer that is too long for decimal text. A run that comes to
such a report stops there, and reads no further documents.

## Main definitions

* `Generator`: A run that is set up.
* `Generator.ofSettings`: Sets a run up.
* `Generator.generate`: What a run makes.
* `Generator.run`: Makes it and writes the outputs.

## Theorems

* `Generator.run_disk_of_error`: A run that makes nothing leaves the disk as it was.
-/

namespace OpcodeForge

open Addressing (Registry)
open Opcode (Builder ReferenceRow Table)
open Specification (Headings Instruction Library)

/-- A run that is set up. -/
structure Generator where
  settings : Settings
  registry : Registry
  reference : List ReferenceRow

/-- What a run makes. -/
structure Generation where
  instructions : List Instruction
  table : Table
  /-- The text of the first output. -/
  bodies : String
  /-- The text of the second output. -/
  dispatch : String

namespace Generator

/-- The reference of a run: the given one, or else the configured one, or else that
    of the processor. -/
def chooseReference (d : Disk) (settings : Settings) :
    Option (List ReferenceRow) → Except Halt (List ReferenceRow)
  | some rows => .ok rows
  | none =>
    if settings.referenceFile.isTruthy then
      Opcode.loadReference d settings.referenceFile
    else .ok Opcode.defaultReference

/-- Sets a run up. Flags of the settings count over those of the registry. -/
def ofSettings (d : Disk) (settings : Settings) (registry : Registry)
    (reference : Option (List ReferenceRow)) : Except Halt Generator :=
  match registry.withOverrides settings.modes with
  | .error f => .error (.failure f)
  -- The flags are checked before the reference is loaded.
  | .ok registry =>
    (chooseReference d settings reference).map fun rows => ⟨settings, registry, rows⟩

/-- The library that a configured value names, and the identifiers of its documents.
    Names in a directory that is named in bytes cannot be told apart, so it must be
    empty. A number names an open file, which is no directory. -/
def documents (d : Disk) (v : Value) : Except Halt (Library × List String) :=
  match v with
  | .text s =>
    match (Library.mk s).identifiers d with
    | .error f => .error (.failure f)
    | .ok identifiers => .ok (⟨s⟩, identifiers)
  | .bytes _ =>
    let path := v.diskPath?.getD ""
    if !d.isDirectory path then .error (.failure (.specDirectory v.plain))
    else
      match d.names path with
      | .ok [] => .ok (⟨path⟩, [])
      | _ => .error (.defect .notAPath)
  | .bool _ => .error (.failure (.specDirectory v.plain))
  | .int _ => .error (.failure (.specDirectory v.plain))
  | _ => .error (.defect .notAPath)

/-- What reading documents gives: the instructions, what was wrong, and what was
    told. -/
structure Reading where
  instructions : List Instruction
  failures : List Failure
  log : List Log.Line

/-- The instruction that a document specifies. If it specifies none, the report names the heading
    of the section that must be there, and so the heading must have a text. -/
def readDocument (headings : Headings) (lib : Library) (d : Disk) (identifier : String) :
    Except Halt (Instruction × List Log.Line) :=
  match lib.read d identifier with
  | .error f => .error (.failure f)
  | .ok text =>
    match Specification.extract headings identifier (Specification.readBlocks text) with
    | .ok found => .ok found
    | .error f =>
      if headings.implementation.isWritable then .error (.failure f)
      else .error (.defect .numberTooLong)

/-- Reads documents. One that has a report does not keep others from being read, and one that has
    none ends the reading. -/
def readDocuments (headings : Headings) (lib : Library) (d : Disk) :
    List String → Reading × Except Defect Unit
  | [] => (⟨[], [], []⟩, .ok ())
  | identifier :: rest =>
    match readDocument headings lib d identifier with
    | .error (.defect x) => (⟨[], [], []⟩, .error x)
    | .error (.failure f) =>
      -- What is found in other documents does not depend on this one.
      let (others, result) := readDocuments headings lib d rest
      ({ others with failures := f :: others.failures }, result)
    | .ok (i, log) =>
      let (others, result) := readDocuments headings lib d rest
      ({ others with instructions := i :: others.instructions, log := log ++ others.log }, result)

/-- The line that tells how many documents are read. -/
def loadingLine (count : Nat) (directory : String) : Log.Line :=
  ⟨.info,
    "Loading " ++ Number.decimalNat count ++ " instruction spec(s) from " ++ directory⟩

/-- The line that tells how many defaults were put in. -/
def seededLine (count : Nat) : Log.Line :=
  ⟨.debug, "Seeded " ++ Number.decimalNat count ++ " default opcode entries"⟩

/-- The line that tells how many entries an instruction has. -/
def addedLine (i : Instruction) (count : Nat) : Log.Line :=
  ⟨.debug, i.identifier ++ ": " ++ Number.decimalNat count ++ " opcode entr"
    ++ (if count == 1 then "y" else "ies")⟩

/-- The line that tells how large the table is. -/
def builtLine (count : Nat) : Log.Line :=
  ⟨.info, "Built dispatch table with " ++ Number.decimalNat count ++ " opcode entries"⟩

/-- Puts in what instructions declare, and tells of each. -/
def addAll (b : Builder) : List Instruction →
    Builder × List Log.Line × Except Defect Unit
  | [] => (b, [], .ok ())
  | i :: rest =>
    match b.add i with
    | (b, .error x) => (b, [], .error x)
    | (b, .ok count) =>
      let (b, log, result) := addAll b rest
      (b, addedLine i count :: log, result)

/-- Renders the outputs, unless something was wrong. -/
def finish (registry : Registry) (reading : Reading) (b : Builder) :
    Except Halt Generation :=
  -- Documents were read before rows, and their faults are told first.
  let failures := reading.failures ++ b.failures
  if failures.isEmpty then
    let table := Table.ofList b.entries
    let placeholders := table.placeholders (reading.instructions.map (·.identifier))
    match Rendering.dispatch registry table with
    | .error x => .error (.defect x)
    | .ok dispatch =>
      .ok ⟨reading.instructions, table,
        Rendering.bodies reading.instructions placeholders, dispatch⟩
  else .error (.failure (.generation failures))

/-- Collects what instructions declare over the defaults, and renders the outputs. -/
def assemble (g : Generator) (reading : Reading) :
    List Log.Line × Except Halt Generation :=
  -- The defaults go in first, so that declarations can replace them.
  match (Builder.empty g.registry).seed g.reference with
  | .error f => ([], .error (.failure f))
  | .ok (b, seeded) =>
    let (b, log, added) := addAll b reading.instructions
    let told := seededLine seeded :: log
    match added with
    | .error x => (told, .error (.defect x))
    | .ok () =>
      match finish g.registry reading b with
      | .error h => (told, .error h)
      | .ok made => (told ++ [builtLine made.table.size], .ok made)

/-- What a run makes, and what it tells. -/
def generate (g : Generator) (d : Disk) : List Log.Line × Except Halt Generation :=
  match documents d g.settings.specDirectory with
  | .error h => ([], .error h)
  | .ok (lib, identifiers) =>
    -- Lines name the directory as it was configured, and not as a path.
    let shown := g.settings.specDirectory.plain
    let listed := [Library.foundLine identifiers.length shown, loadingLine identifiers.length shown]
    match readDocuments g.settings.headings lib d identifiers with
    | (reading, .error x) => (listed ++ reading.log, .error (.defect x))
    | (reading, .ok ()) =>
      let (told, result) := g.assemble reading
      (listed ++ reading.log ++ told, result)

/-- Makes the outputs and writes them. -/
def run (g : Generator) (d : Disk) : Outcome Generation :=
  match g.generate d with
  | (log, .error h) => ⟨d, log, .error h⟩
  | (log, .ok made) =>
    let written := Output.write d g.settings.instructionsPath g.settings.dispatchPath
      made.bodies made.dispatch
    ⟨written.disk, log ++ written.log, written.result.map fun _ => made⟩

/-- A run that makes nothing leaves the disk as it was. -/
theorem run_disk_of_error (g : Generator) (d : Disk) (log : List Log.Line) (h : Halt)
    (hg : g.generate d = (log, .error h)) : (g.run d).disk = d := by
  unfold run
  rw [hg]

end Generator

end OpcodeForge
