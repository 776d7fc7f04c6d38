import OpcodeForge.Disk.Basic
import OpcodeForge.Failure
import OpcodeForge.Log

/-!
# Specification Libraries

The documents of a run lie in one directory, one file for each instruction. The
name of the file is the identifier of the instruction and a suffix, and nothing
else in the directory counts, be it a file with another name or a directory with
such a name.

Documents are listed in the order of their file names. This is not the order of
the identifiers: where one identifier begins another, the next character of the
longer one is compared with the suffix.

## Main definitions

* `Specification.Library`: A directory of documents.
* `Specification.Library.identifiers`: The identifiers of its documents.
* `Specification.Library.path`: Where the document of an instruction lies.
* `Specification.Library.read`: The text of a document.
-/

namespace OpcodeForge.Specification

/-- What the name of a document ends in. -/
def documentSuffix : String := ".md"

/-- A directory of documents. -/
structure Library where
  directory : String
  deriving DecidableEq, Repr

namespace Library

/-- The path of the document of an instruction. -/
def path (lib : Library) (identifier : String) : String :=
  Path.join lib.directory (identifier ++ documentSuffix)

/-- The identifier that a file name has before the suffix, if it ends in that. -/
def identifierOf? (name : String) : Option String :=
  -- A name that is shorter than the suffix is compared as a whole, and differs.
  let n := name.length - documentSuffix.length
  if name.toList.drop n = documentSuffix.toList then
    some (String.ofList (name.toList.take n))
  else none

/-- Whether a name in the directory is that of a document. -/
def isDocument (lib : Library) (d : Disk) (name : String) : Bool :=
  (identifierOf? name).isSome && d.isFile (Path.join lib.directory name)

/-- The file names of the documents, in order. -/
def fileNames (lib : Library) (d : Disk) : List String :=
  match d.names lib.directory with
  | .error _ => []
  | .ok names => (names.filter (lib.isDocument d)).mergeSort fun a b => decide (a ≤ b)

/-- The identifiers of the documents, in the order of their file names. -/
def identifiers (lib : Library) (d : Disk) : Except Failure (List String) :=
  if d.isDirectory lib.directory then
    .ok ((lib.fileNames d).filterMap identifierOf?)
  else .error (.specDirectory lib.directory)

/-- The line that tells how many documents there are. -/
def foundLine (count : Nat) (directory : String) : Log.Line :=
  ⟨.debug, "Found " ++ Number.decimalNat count ++ " spec document(s) in " ++ directory⟩

/-- The text of a document. -/
def read (lib : Library) (d : Disk) (identifier : String) : Except Failure String :=
  let path := lib.path identifier
  match d.read path with
  | .error fault => .error (.specRead identifier path (.refused fault))
  | .ok bytes =>
    match Text.decode bytes with
    | .error fault => .error (.specRead identifier path (.notText fault))
    | .ok cs => .ok (String.ofList (Text.unixLines cs))

/-- The text of a document that need not be one of those in the directory. -/
def load (lib : Library) (d : Disk) (identifier : String) : Except Halt String :=
  if (lib.path identifier).toList.contains '\x00' then .error (.defect .badPath)
  else
    match lib.read d identifier with
    | .error f => .error (.failure f)
    | .ok s => .ok s

end Library

end OpcodeForge.Specification
