import OpcodeForge.Disk.Basic
import OpcodeForge.Failure
import OpcodeForge.Log

/-!
# Outputs

The two outputs of a run are written in two steps, so that a fault found on the way
leaves what was there before. First each text goes into a temporary file beside its
target, with the directories that are missing; then the temporary files are renamed
to their targets, one after the other.

When a text cannot be staged, or a file cannot be renamed, the temporary files are
taken away again, and the report names the target.

## Main definitions

* `Outcome`: What an operation on the disk leaves.
* `Output.stage`: Writes one text into a temporary file.
* `Output.place`: Renames temporary files to their targets.
* `Output.write`: Writes the outputs of a run.
-/

namespace OpcodeForge

/-- What an operation leaves: the disk, what was told, and the answer. -/
structure Outcome (α : Type) where
  disk : Disk
  log : List Log.Line
  result : Except Halt α

namespace Output

/-- What the name of a temporary file ends in. -/
def temporarySuffix : String := ".tmp"

/-- A temporary file and the path that it is to be renamed to. -/
structure Staged where
  temporary : String
  target : String
  deriving DecidableEq, Repr

/-- Takes a file away, if there is one. -/
def removeIfThere (d : Disk) (p : String) : Disk :=
  match d.remove p with
  | .ok d => d
  | .error _ => d

/-- Takes temporary files away. -/
def discard (d : Disk) (all : List Staged) : Disk :=
  all.foldl (fun d s => removeIfThere d s.temporary) d

/-- The report that a target cannot be written. A path that no entry can have is not
    reported, and its temporary file not looked for. -/
def refuse (d : Disk) (temporary target : String) (fault : Disk.Fault) :
    Disk × Except Halt Staged :=
  match fault with
  | .badName => (d, .error (.defect .badPath))
  | fault =>
    (removeIfThere d temporary,
      .error (.failure (.outputWrite target (.refused fault))))

/-- Makes the directory that a path lies in. -/
def makeParent (d : Disk) (p : String) : Disk × Except Disk.Fault Unit :=
  let parent := Path.parent p
  if parent.isEmpty then (d, .ok ()) else d.makeDirectories parent

/-- Writes a text into a temporary file beside a path. -/
def stagePath (d : Disk) (target text : String) : Disk × Except Halt Staged :=
  -- A rename would find this out only when other outputs are in place.
  if d.isDirectory target then
    (d, .error (.failure (.outputWrite target .isDirectory)))
  else
    let temporary := target ++ temporarySuffix
    match makeParent d target with
    | (d, .error fault) => refuse d temporary target fault
    | (d, .ok ()) =>
      match d.write temporary (Text.encode text) with
      | .error fault => refuse d temporary target fault
      | .ok d => (d, .ok ⟨temporary, target⟩)

/-- Writes a text into a temporary file beside a configured path. A path in bytes
    can only be found to be a directory. -/
def stage (d : Disk) (target : Value) (text : String) : Disk × Except Halt Staged :=
  match target with
  | .text p => stagePath d p text
  | .bytes bs =>
    match Text.decode bs with
    | .ok cs =>
      if d.isDirectory (String.ofList cs) then
        (d, .error (.failure (.outputWrite target.plain .isDirectory)))
      else (d, .error (.defect .notAPath))
    | .error _ => (d, .error (.defect .notAPath))
  | _ => (d, .error (.defect .notAPath))

/-- Writes texts into temporary files, after those in `staged`. If one cannot be
    reported on, the temporary files stay. -/
def stageAll (d : Disk) (staged : List Staged) :
    List (Value × String) → Disk × Except Halt (List Staged)
  | [] => (d, .ok staged)
  | (target, text) :: rest =>
    match stage d target text with
    | (d, .ok s) => stageAll d (staged ++ [s]) rest
    -- The text that failed has cleaned up after itself already.
    | (d, .error (.failure f)) => (discard d staged, .error (.failure f))
    | (d, .error (.defect x)) => (d, .error (.defect x))

/-- The line that tells what was written. -/
def wroteLine (target : String) (size : Nat) : Log.Line :=
  ⟨.info, "Wrote " ++ target ++ " (" ++ Number.decimalNat size ++ " bytes)"⟩

/-- The number of bytes of a file. -/
def sizeOf (d : Disk) (p : String) : Nat :=
  match d.read p with
  | .ok bytes => bytes.length
  | .error _ => 0

/-- Renames temporary files to their targets. When one cannot be renamed, those in
    `all` are taken away. -/
def place (all : List Staged) (d : Disk) : List Staged → Outcome Unit
  | [] => ⟨d, [], .ok ()⟩
  | s :: rest =>
    match d.rename s.temporary s.target with
    | .error fault =>
      ⟨discard d all, [], .error (.failure (.outputWrite s.target (.refused fault)))⟩
    | .ok d =>
      -- Outputs that are in place stay there, even if a later one fails.
      let after := place all d rest
      { after with log := wroteLine s.target (sizeOf d s.target) :: after.log }

/-- Writes texts to configured paths. -/
def writeAll (d : Disk) (outputs : List (Value × String)) : Outcome Unit :=
  match stageAll d [] outputs with
  | (d, .error h) => ⟨d, [], .error h⟩
  | (d, .ok staged) => place staged d staged

/-- Writes the two outputs of a run. -/
def write (d : Disk) (instructionsPath dispatchPath : Value)
    (instructions dispatch : String) : Outcome Unit :=
  writeAll d [(instructionsPath, instructions), (dispatchPath, dispatch)]

end Output

end OpcodeForge
