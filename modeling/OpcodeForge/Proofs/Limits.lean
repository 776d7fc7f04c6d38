import OpcodeForge.CommandLine.Run

/-!
# Limits of a Run

A text that is nested is read by calls inside of calls, and so is a nested value shown. A machine
has room for some hundreds of these, and a run that needs more of them stops wherever it is. Here
every call returns, so nothing is said about such a run. `Yaml.Modest` are the texts that are far
from this limit, whatever else may be wrong with them.

Three more things depend on how a file is read. A file is decoded piece by piece, so a fault of its
text can be found before one of its bytes. Tokens are scanned as they are needed, so one that is
out of place can be found before an escape that denotes no character. And half of a pair of code
points can be escaped in a file, which is no text that a path could have.

## Main definitions

* `Value.depth`: How deep a value is nested.
* `Yaml.Scanner.visited`: The states that the scanner comes to.
* `Yaml.Modest`: A text within the limits.
* `Settings.ModestFile`: A file within the limits.
* `CommandLine.Modest`: A command whose files and outputs are within the limits.
-/

namespace OpcodeForge

/-- How many collections, names of a path or calls may lie inside of each other. -/
def maxNesting : Nat := 100

/-- How many keys of a text may ask for entries of other mappings. Each needs one call only. -/
def maxMerges : Nat := 400

/-- The number of bytes of a file that are read together. -/
def pieceSize : Nat := 4096

mutual

/-- How deep a value is nested. -/
def Value.depth : Value → Nat
  | .list items => 1 + depthOfItems items
  | .pairs entries => 2 + depthOfEntries entries
  | .map entries => 1 + depthOfEntries entries
  | .set items => 1 + depthOfItems items
  | _ => 0

/-- How deep the deepest of several values is nested. -/
def Value.depthOfItems : List Value → Nat
  | [] => 0
  | v :: vs => max v.depth (depthOfItems vs)

/-- How deep the deepest value of several pairs is nested. -/
def Value.depthOfEntries : List (Value × Value) → Nat
  | [] => 0
  | (k, v) :: rest => max (max k.depth v.depth) (depthOfEntries rest)

end

namespace Yaml

/-- The number of collections that are open. -/
def Scanner.opened (s : Scanner) : Nat :=
  s.depth + s.outer.length

/-- The states that the scanner comes to. -/
def Scanner.visited : Nat → Scanner → List Scanner
  | 0, s => [s]
  | fuel + 1, s =>
    match s.step with
    | .error _ => [s]
    | .ok (t, true) => s :: visited fuel t
    | .ok (t, false) => [s, t]

/-- Whether a text starts with an escape that denotes half of a pair of code points. -/
def startsSurrogate : List Char → Bool
  | '\\' :: c :: rest =>
    ((escapeWidth? c).bind fun width => hexAt? width 0 rest).any isSurrogate
  | _ => false

/-- Without a backslash there are no escapes. -/
theorem startsSurrogate_of_not_mem (cs ds : List Char) (h : '\\' ∉ cs) (hds : ds <:+ cs) :
    startsSurrogate ds = false := by
  unfold startsSurrogate
  split
  · exact absurd (hds.subset List.mem_cons_self) h
  · rfl

/-- Whether a collection has the tag of a text, so that one of its entries stands for it. -/
def Vertex.isStoodFor : Vertex → Bool
  | .scalar _ _ => false
  | v => v.tag.isScalar

/-- A text within the limits. -/
structure Modest (cs : List Char) : Prop where
  /-- Few collections are open at a time. -/
  opened : ∀ s ∈ Scanner.visited (cs.length + 1) (.ofText cs), s.opened ≤ maxNesting
  /-- No escape and no version is at fault. -/
  scanned : ∀ fault, Scanner.run (cs.length + 1) (.ofText cs) = .error fault → fault = .malformed
  /-- No escape denotes half of a pair. -/
  whole : ∀ ds, ds <:+ cs → startsSurrogate ds = false
  /-- Few keys ask for entries of other mappings. -/
  merges : ∀ n, document? cs = .ok (some n) → n.graph.merges ≤ maxMerges
  /-- No collection stands for a text, since it could stand for itself. -/
  standsFor : ∀ n, document? cs = .ok (some n) → ∀ v ∈ n.graph.vertices, v.isStoodFor = false
  /-- The value is nested little, also where one text is used many times. -/
  depth : ∀ v, load cs = .ok v → v.depth ≤ maxNesting

end Yaml

namespace Settings

/-- A file within the limits. -/
structure ModestFile (d : Disk) (path : String) : Prop where
  text : ∀ bytes cs, d.read path = .ok bytes → Text.decode bytes = .ok cs →
    Yaml.Modest (Text.unixLines cs)
  /-- A file that is no text is read in one piece. -/
  noText : ∀ bytes fault, d.read path = .ok bytes → Text.decode bytes = .error fault →
    bytes.length ≤ pieceSize

end Settings

namespace CommandLine

/-- A command whose files and outputs are within the limits. -/
structure Modest (d : Disk) (o : Options) : Prop where
  config : o.config.isEmpty = false → Settings.ModestFile d o.config
  reference : ∀ s path, settings d o = .ok s → s.referenceFile.isTruthy = true →
    s.referenceFile.diskPath? = some path → Settings.ModestFile d path
  /-- Missing directories are made from the outermost one on. -/
  outputs : ∀ s path, settings d o = .ok s →
    s.instructionsPath = .text path ∨ s.dispatchPath = .text path →
      (Path.segments path).length ≤ maxNesting

end CommandLine

end OpcodeForge
