import OpcodeForge.CommandLine.Run

/-!
# The Program

The command is a function of the disk, so the program takes over what the command
may look at, lets it run, and carries out what has changed: the entries on the way
to each path that the options and the settings name, and the documents in the
directory of the specifications.

## Main definitions

* `Program.pathsOf`: The paths that a command looks at.
* `main`: The program.
-/

namespace OpcodeForge.Program

open CommandLine (Options)

/-- The paths that settings name. -/
def settingsPaths (s : Settings) : List String :=
  let targets := [s.instructionsPath, s.dispatchPath].filterMap Value.diskPath?
  [s.specDirectory, s.referenceFile].filterMap Value.diskPath? ++ targets
    ++ targets.map (· ++ Output.temporarySuffix)

/-- The paths that a command looks at, as far as they can be told from a disk. -/
def pathsOf (d : Disk) (o : Options) : List String :=
  o.config :: match CommandLine.settings d o with
    | .ok s => settingsPaths s
    | .error _ => []

/-- The directory whose documents a command reads, as far as it can be told. -/
def directoryOf (d : Disk) (o : Options) : String :=
  match CommandLine.settings d o with
  | .ok s => s.specDirectory.diskPath?.getD ""
  | .error _ => ""

/-- The path of a location. -/
def pathOf (l : Location) : String :=
  "/" ++ "/".intercalate l

/-- Takes over the entry at a location, if there is one. -/
def takeEntry (d : Disk) (l : Location) : IO Disk := do
  let place := (← IO.currentDir) / pathOf l
  if l.isEmpty || !(← place.pathExists) then return d
  else if ← place.isDir then return d.put l .directory
  else return d.put l (.file (← IO.FS.readBinFile place).toList)

/-- Takes over the entries on the way from a location along names. -/
def takeWay (d : Disk) (l : Location) : List String → IO Disk
  | [] => return d
  | s :: rest => do
    let next := if s == "." then l else if s == ".." then l.dropLast else l ++ [s]
    takeWay (← takeEntry d next) next rest

/-- Takes over the entries on the way to a path. -/
def takePath (d : Disk) (p : String) : IO Disk := do
  takeWay d (if Path.isAbsolute p then [] else d.here) (Path.segments p)

/-- Takes over the documents in a directory. -/
def takeDocuments (d : Disk) (p : String) : IO Disk := do
  if !d.isDirectory p then return d
  else
    let entries ← ((← IO.currentDir) / p).readDir
    let names := entries.toList.map (·.fileName)
    let documents := names.filter fun s => (Specification.Library.identifierOf? s).isSome
    documents.foldlM (fun d s => takePath d (Path.join p s)) d

/-- Takes over what a command may look at. The settings are only known after the file
    that they are in has been taken over. -/
def takeOver (o : Options) : IO Disk := do
  let here := Path.segments (← IO.currentDir).toString
  -- A relative path may lead up from here, so the way here is taken over first.
  let start ← takeWay ⟨here, []⟩ [] here
  let first ← takePath start o.config
  let d ← (pathsOf first o).foldlM takePath first
  takeDocuments d (directoryOf first o)

/-- Makes one entry of the disk that was not there before. -/
def makeEntry (before : Disk) (e : Location × Disk.Entry) : IO Unit := do
  if before.get? e.1 == some e.2 then return ()
  else
    match e.2 with
    | .directory => IO.FS.createDir (pathOf e.1)
    | .file bytes => IO.FS.writeBinFile (pathOf e.1) ⟨bytes.toArray⟩

/-- Removes one entry of the disk that is no longer there. -/
def removeEntry (after : Disk) (e : Location × Disk.Entry) : IO Unit := do
  if (after.get? e.1).isSome then return ()
  else IO.FS.removeFile (pathOf e.1)

/-- Carries out what has changed. -/
def carryOut (before after : Disk) : IO Unit := do
  after.entries.forM (makeEntry before)
  before.entries.forM (removeEntry after)

/-- The exit code of a command, after what it told was shown and what it changed was
    carried out. -/
def finish (before : Disk) (e : CommandLine.Ending) : IO UInt32 := do
  carryOut before e.disk
  IO.eprint e.text
  -- A defect has no exit code of its own, and counts as a failed run.
  match e.result with
  | .ok code => return code.toUInt32
  | .error _ =>
    IO.eprintln "the run stopped at a value that it has no use for"
    return 1

end OpcodeForge.Program

/-- The program. -/
def main (args : List String) : IO UInt32 := do
  let options := match OpcodeForge.CommandLine.parse args with
    | .ok o => o
    | .error _ => .none
  let d ← OpcodeForge.Program.takeOver options
  OpcodeForge.Program.finish d (OpcodeForge.CommandLine.execute d args)
