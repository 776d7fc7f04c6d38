import OpcodeForge.Text.Pieces

/-!
# Paths

A path is a text. Joining, cutting and making it absolute are done on the text
alone, without a look at the disk, so a path may go through a directory that does
not exist and come back out of it.

## Main definitions

* `Path.join`: A path as seen from a directory.
* `Path.parent`: The path of the directory that a path lies in.
* `Path.split`: The parent, and the last part.
* `Path.absolute`: A path from the root on, without detours.
* `Path.segments`: The names that a path consists of.
-/

namespace OpcodeForge.Path

/-- Whether a path starts at the root. -/
def isAbsolute (p : String) : Bool :=
  p.toList.head? == some '/'

/-- A path as seen from a directory. An absolute path stays what it is. -/
def join (base p : String) : String :=
  if isAbsolute p then p
  else if base.isEmpty || base.toList.getLast? == some '/' then base ++ p
  else base ++ "/" ++ p

/-- The names that a path consists of. -/
def segments (p : String) : List String :=
  ((Text.pieces '/' p.toList).filter (· ≠ [])).map String.ofList

/-- The text without the slashes at its end, unless it has nothing else. -/
def dropEndSlashes (cs : List Char) : List Char :=
  match cs.reverse.dropWhile (· == '/') with
  | [] => cs
  | rest => rest.reverse

/-- The path of the directory that a path lies in, and the part after the last
    slash. -/
def split (p : String) : String × String :=
  let tail := p.toList.reverse.takeWhile (· ≠ '/')
  let head := p.toList.reverse.dropWhile (· ≠ '/')
  (String.ofList (dropEndSlashes head.reverse), String.ofList tail.reverse)

/-- The path of the directory that a path lies in. -/
def parent (p : String) : String :=
  (split p).1

/-- The names of an absolute path without detours. `kept` has the names so far,
    backwards. -/
def straighten (kept : List String) : List String → List String
  | [] => kept.reverse
  | s :: rest =>
    if s == "." then straighten kept rest
    else if s == ".." then straighten kept.tail rest
    else straighten (s :: kept) rest

/-- The slashes that an absolute path starts with: one, or two if there are exactly
    two. -/
def rootSlashes (p : String) : String :=
  match p.toList with
  | '/' :: '/' :: '/' :: _ => "/"
  | '/' :: '/' :: _ => "//"
  | _ => "/"

/-- A path from the root on, without detours, for a path as seen from the absolute
    path of a directory. -/
def absolute (base p : String) : String :=
  let full := join base p
  rootSlashes full ++ "/".intercalate (straighten [] (segments full))

end OpcodeForge.Path
