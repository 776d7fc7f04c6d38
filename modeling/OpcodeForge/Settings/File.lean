import OpcodeForge.Settings.Basic
import OpcodeForge.Yaml.Construct

/-!
# Settings Files

A configuration file holds a value, and settings are read off it. Paths in the file
are seen from the directory that the file lies in, wherever the run takes place. A
file whose value is empty, or zero, configures nothing.

What cannot be read as a value is reported with the path of the file. Bytes that are
no text, and values that cannot be built, have no report.

## Main definitions

* `Settings.readValue`: The value in a file.
* `Settings.load`: The settings in a file.
-/

namespace OpcodeForge

/-- The path that a configured value leads to. Bytes that are no text lead nowhere,
    as the empty path does. -/
def Value.diskPath? : Value → Option String
  | .text s => some s
  | .bytes bs =>
    match Text.decode bs with
    | .ok cs => some (String.ofList cs)
    | .error _ => some ""
  | _ => none

namespace Settings

/-- The value that a text holds. The path is that of its file. -/
def valueOf (path : Value) (cs : List Char) : Except Halt Value :=
  match Yaml.load (Text.unixLines cs) with
  | .ok v => .ok v
  | .error .malformed => .error (.failure (.config (.malformed path.plain)))
  | .error fault => .error (.defect (.value fault))

/-- The value in a file. `unreadable` is the report about a fault of the disk, for
    the path and the path in quotes. -/
def readValue (unreadable : String → String → Disk.Fault → ConfigFault) (d : Disk)
    (path : Value) : Except Halt Value :=
  match path.diskPath? with
  | none => .error (.defect .notAPath)
  | some p =>
    match d.read p with
    | .error .badName => .error (.defect .badPath)
    | .error fault => .error (.failure (.config (unreadable path.plain path.shown fault)))
    | .ok bytes =>
      match Text.decode bytes with
      | .error fault => .error (.defect (.notText fault))
      | .ok cs => valueOf path cs

/-- The settings in a file. -/
def load (d : Disk) (path : String) : Except Halt Settings := do
  let v ← readValue .configUnreadable d (.text path)
  -- An empty file has no value at all, and that is as good as an empty mapping.
  let s ← ofValue (if v.isTruthy then v else .map [])
  s.resolve (Path.parent (Path.absolute d.herePath path))

end Settings

end OpcodeForge
