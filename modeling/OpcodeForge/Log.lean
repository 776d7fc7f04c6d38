/-!
# Log Lines

What a run reports while it goes on. Each line has a level, and a run is asked to
show the lines from some level on.

## Main definitions

* `Log.Level`: How much a line matters.
* `Log.Line`: A message at a level.
-/

namespace OpcodeForge.Log

/-- How much a line matters. -/
inductive Level
  | debug
  | info
  | warning
  | error
  deriving DecidableEq, Repr

/-- The place of a level in their order. -/
def Level.rank : Level → Nat
  | .debug => 10
  | .info => 20
  | .warning => 30
  | .error => 40

/-- The name of a level. -/
def Level.name : Level → String
  | .debug => "DEBUG"
  | .info => "INFO"
  | .warning => "WARNING"
  | .error => "ERROR"

/-- A message at a level. -/
structure Line where
  level : Level
  message : String
  deriving DecidableEq, Repr

/-- A line as it is shown. -/
def Line.text (l : Line) : String :=
  l.level.name ++ ": " ++ l.message

/-- The lines from a level on. -/
def fromLevel (least : Level) (ls : List Line) : List Line :=
  ls.filter fun l => least.rank ≤ l.level.rank

end OpcodeForge.Log
