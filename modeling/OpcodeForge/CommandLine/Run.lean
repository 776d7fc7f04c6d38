import OpcodeForge.CommandLine.Arguments
import OpcodeForge.Generation

/-!
# The Command

The command reads its settings from a file, if it is given one, and lets the options
count over them. Then it makes a run and tells about it in log lines, from a level on
that depends on the options.

The exit code says how far the run came: two stands for wrong arguments or a wrong
configuration, one for a run that failed, and zero for one that wrote its outputs.

## Main definitions

* `CommandLine.Ending`: How the command ends.
* `CommandLine.settings`: The settings of a run.
* `CommandLine.execute`: The whole command.
-/

namespace OpcodeForge.CommandLine

/-- How the command ends: the disk, the text on the error stream, and the exit
    code. -/
structure Ending where
  disk : Disk
  text : String
  result : Except Defect Nat

/-- The exit code of a run that wrote its outputs. -/
def exitDone : Nat := 0

/-- The exit code of a run that failed. -/
def exitFailed : Nat := 1

/-- The exit code for wrong arguments or a wrong configuration. -/
def exitMisused : Nat := 2

/-- The name of the command. -/
def commandName : String := "opcode-dispatch-gen"

/-- The level from which on lines are shown. -/
def Options.level (o : Options) : Log.Level :=
  if o.quiet then .error
  else if o.verbosity == 0 then .info
  else .debug

/-- A configured path, unless an option gives another one. -/
def given (option : String) (configured : Value) : Value :=
  if option.isEmpty then configured else .text option

/-- The settings of a run. -/
def settings (d : Disk) (o : Options) : Except Halt Settings := do
  let s ← if o.config.isEmpty then .ok Settings.default else Settings.load d o.config
  return { s with
    specDirectory := given o.specDirectory s.specDirectory
    instructionsPath := given o.instructionsPath s.instructionsPath
    dispatchPath := given o.dispatchPath s.dispatchPath }

/-- A report as a log line. -/
def errorLine (f : Failure) : Log.Line :=
  ⟨.error, f.message⟩

/-- The lines that report why a run failed. -/
def failureLines : Failure → List Log.Line
  | .generation failures =>
    failures.map errorLine ++ [⟨.error, "Generation failed with "
      ++ Number.decimalNat failures.length ++ " error(s); no files written"⟩]
  | f => [errorLine f]

/-- The text of the lines that options ask for. -/
def shownText (o : Options) (ls : List Log.Line) : String :=
  String.join ((Log.fromLevel o.level ls).map fun l => l.text ++ "\n")

/-- How a run ends. -/
def endingOf (o : Options) (outcome : Outcome Generation) : Ending :=
  match outcome.result with
  | .ok _ => ⟨outcome.disk, shownText o outcome.log, .ok exitDone⟩
  | .error (.failure f) =>
    ⟨outcome.disk, shownText o (outcome.log ++ failureLines f), .ok exitFailed⟩
  | .error (.defect x) => ⟨outcome.disk, shownText o outcome.log, .error x⟩

/-- Sets a run up as options ask for, and makes it. -/
def perform (d : Disk) (o : Options) : Ending :=
  match settings d o >>= fun s => Generator.ofSettings d s .default none with
  -- A reference that cannot be used is a fault of the configuration too.
  | .error (.failure f) => ⟨d, shownText o [errorLine f], .ok exitMisused⟩
  | .error (.defect x) => ⟨d, "", .error x⟩
  | .ok g => endingOf o (g.run d)

/-- The whole command. -/
def execute (d : Disk) (args : List String) : Ending :=
  match parse args with
  -- The help goes to the other stream.
  | .error .help => ⟨d, "", .ok exitDone⟩
  | .error (.misuse message) =>
    ⟨d, commandName ++ ": error: " ++ message ++ "\n", .ok exitMisused⟩
  | .ok o => perform d o

end OpcodeForge.CommandLine
