import OpcodeForge.Disk.Path
import OpcodeForge.Text.Encoding

/-!
# The Disk

What is stored where: a disk gives each location an entry, a file with its bytes
or a directory. A location is the list of names from the root down. The root is
always a directory; a program works in one directory, and paths that do not start
at the root start there.

A path is followed name by name, and each name but the last must be that of a
directory. A path that ends in a slash, or in one of the names for a directory
itself, must lead to a directory.

Every operation either changes nothing and reports a fault, or changes the entry at
the location it names; only a rename changes two. There are no links.

## Main definitions

* `Disk`: What is stored where.
* `Disk.Fault`: Why an operation is refused.
* `Disk.locate`: The location that a path leads to.
* `Disk.read`, `Disk.write`, `Disk.makeDirectory`, `Disk.rename`, `Disk.remove`,
  `Disk.names`: The operations.

## Theorems

* `Disk.get?_put`: What is stored after an entry has been put somewhere.
* `Disk.get?_erase`: What is stored after an entry has been taken away.
-/

namespace OpcodeForge

/-- The names from the root down to an entry. -/
abbrev Location := List String

/-- What is stored at a location. -/
inductive Disk.Entry
  | directory
  | file (bytes : List UInt8)
  deriving DecidableEq, Repr

/-- What is stored where. -/
structure Disk where
  /-- The directory that relative paths start from. -/
  here : Location
  entries : List (Location × Disk.Entry)
  deriving DecidableEq, Repr

namespace Disk

/-- Why an operation is refused. -/
inductive Fault
  | notFound
  | notADirectory
  | isADirectory
  | fileExists
  | nameTooLong
  /-- The last name of the path is one of those for a directory itself. -/
  | busy
  /-- The path has a character that no name can have. -/
  | badName
  deriving DecidableEq, Repr

/-- The fault in words. -/
def Fault.message : Fault → String
  | .notFound => "No such file or directory"
  | .notADirectory => "Not a directory"
  | .isADirectory => "Is a directory"
  | .fileExists => "File exists"
  | .nameTooLong => "File name too long"
  | .busy => "Device or resource busy"
  | .badName => "embedded null byte"

/-- The number of a fault. -/
def Fault.number : Fault → Nat
  | .notFound => 2
  | .busy => 16
  | .fileExists => 17
  | .notADirectory => 20
  | .isADirectory => 21
  | .badName => 22
  | .nameTooLong => 36

/-- The entry at a location of a list. -/
def lookupEntry (l : Location) : List (Location × Entry) → Option Entry
  | [] => none
  | (k, e) :: rest => if k = l then some e else lookupEntry l rest

/-- Replaces the entry at a location of a list, or adds it at the end. -/
def putEntry (l : Location) (e : Entry) :
    List (Location × Entry) → List (Location × Entry)
  | [] => [(l, e)]
  | (k, x) :: rest => if k = l then (k, e) :: rest else (k, x) :: putEntry l e rest

/-- Takes the entries at a location out of a list. -/
def eraseEntry (l : Location) : List (Location × Entry) → List (Location × Entry)
  | [] => []
  | (k, x) :: rest => if k = l then eraseEntry l rest else (k, x) :: eraseEntry l rest

theorem lookupEntry_putEntry (l k : Location) (e : Entry)
    (es : List (Location × Entry)) :
    lookupEntry k (putEntry l e es) = if k = l then some e else lookupEntry k es := by
  induction es with
  | nil => simp [putEntry, lookupEntry, eq_comm]
  | cons p es ih =>
    obtain ⟨m, x⟩ := p
    by_cases hm : m = l
    · subst hm
      by_cases h : k = m
      · simp [putEntry, lookupEntry, h]
      · simp [putEntry, lookupEntry, h, Ne.symm h]
    · by_cases h : m = k
      · subst h
        simp [putEntry, lookupEntry, hm]
      · simp [putEntry, lookupEntry, hm, h, ih]

theorem lookupEntry_eraseEntry (l k : Location) (es : List (Location × Entry)) :
    lookupEntry k (eraseEntry l es) = if k = l then none else lookupEntry k es := by
  induction es with
  | nil => simp [eraseEntry, lookupEntry]
  | cons p es ih =>
    obtain ⟨m, x⟩ := p
    by_cases hm : m = l
    · subst hm
      rw [eraseEntry, if_pos rfl, ih]
      by_cases h : k = m
      · simp [h]
      · simp [lookupEntry, h, Ne.symm h]
    · by_cases h : m = k
      · subst h
        simp [eraseEntry, lookupEntry, hm]
      · simp [eraseEntry, lookupEntry, hm, h, ih]

/-- The entry at a location. -/
def get? (d : Disk) (l : Location) : Option Entry :=
  if l = [] then some .directory else lookupEntry l d.entries

/-- The disk with an entry at a location. -/
def put (d : Disk) (l : Location) (e : Entry) : Disk :=
  { d with entries := putEntry l e d.entries }

/-- The disk without an entry at a location. -/
def erase (d : Disk) (l : Location) : Disk :=
  { d with entries := eraseEntry l d.entries }

/-- After an entry has been put somewhere, that location has it, and all others
    have what they had. -/
theorem get?_put (d : Disk) (l k : Location) (e : Entry) (h : l ≠ []) :
    (d.put l e).get? k = if k = l then some e else d.get? k := by
  by_cases hk : k = []
  · subst hk
    simp [get?, h.symm]
  · simp [get?, put, hk, lookupEntry_putEntry]

/-- After an entry has been taken away, its location has none, and all others have
    what they had. -/
theorem get?_erase (d : Disk) (l k : Location) (h : l ≠ []) :
    (d.erase l).get? k = if k = l then none else d.get? k := by
  by_cases hk : k = []
  · subst hk
    simp [get?, h.symm]
  · simp [get?, erase, hk, lookupEntry_eraseEntry]

/-- The path of the directory that relative paths start from. -/
def herePath (d : Disk) : String :=
  "/" ++ "/".intercalate d.here

/-- The greatest number of bytes in a name. -/
def maxName : Nat := 255

/-- The number of bytes that a path must stay below. -/
def maxPath : Nat := 4096

/-- Follows names from a location. -/
def walk (d : Disk) : Location → List String → Except Fault Location
  | l, [] => .ok l
  | l, s :: rest =>
    match d.get? l with
    | none => .error .notFound
    | some (.file _) => .error .notADirectory
    | some .directory =>
      if s == "." then walk d l rest
      else if s == ".." then walk d l.dropLast rest
      -- Limits count bytes and not characters.
      else if maxName < s.utf8ByteSize then .error .nameTooLong
      else walk d (l ++ [s]) rest

/-- Whether the last name of a path is one of those for a directory itself. -/
def endsInDots (p : String) : Bool :=
  match (Path.segments p).getLast? with
  | some s => s == "." || s == ".."
  | none => false

/-- Whether a path names a directory by its form. -/
def namesDirectory (p : String) : Bool :=
  p.toList.getLast? == some '/' || endsInDots p

/-- The location that a path leads to, be there an entry or not. -/
def locate (d : Disk) (p : String) : Except Fault Location :=
  if p.toList.contains '\x00' then .error .badName
  else if p.isEmpty then .error .notFound
  else if maxPath ≤ p.utf8ByteSize then .error .nameTooLong
  else d.walk (if Path.isAbsolute p then [] else d.here) (Path.segments p)

/-- The entry that a path leads to, if there is one. -/
def find? (d : Disk) (p : String) : Option Entry :=
  match d.locate p with
  | .error _ => none
  | .ok l =>
    match d.get? l with
    | some (.file bytes) => if namesDirectory p then none else some (.file bytes)
    | e => e

/-- Whether a path leads to a directory. -/
def isDirectory (d : Disk) (p : String) : Bool :=
  d.find? p == some .directory

/-- Whether a path leads to a file. -/
def isFile (d : Disk) (p : String) : Bool :=
  match d.find? p with
  | some (.file _) => true
  | _ => false

/-- Whether a path leads to anything. -/
def contains (d : Disk) (p : String) : Bool :=
  (d.find? p).isSome

/-- The bytes of a file. -/
def read (d : Disk) (p : String) : Except Fault (List UInt8) := do
  match d.get? (← d.locate p) with
  | none => .error .notFound
  | some .directory => .error .isADirectory
  | some (.file bytes) => if namesDirectory p then .error .notADirectory else .ok bytes

/-- Writes a file, which need not be there before. -/
def write (d : Disk) (p : String) (bytes : List UInt8) : Except Fault Disk := do
  let l ← d.locate p
  match d.get? l with
  | some .directory => .error .isADirectory
  | some (.file _) =>
    if namesDirectory p then .error .notADirectory else .ok (d.put l (.file bytes))
  | none =>
    if namesDirectory p then .error .isADirectory else .ok (d.put l (.file bytes))

/-- Makes a directory in one that exists. -/
def makeDirectory (d : Disk) (p : String) : Except Fault Disk := do
  let l ← d.locate p
  match d.get? l with
  | some _ => .error .fileExists
  | none => .ok (d.put l .directory)

/-- Makes a directory and those that it lies in, where they are missing. The fault
    comes with the directories that were made before it. A parent is a shorter
    text, so the length of the path is fuel enough. -/
def makeDirectoriesFrom : Nat → Disk → String → Disk × Except Fault Unit
  | 0, d, _ => (d, .ok ())
  | fuel + 1, d, p =>
    let (head, tail) := Path.split p
    -- A slash at the end leaves an empty last part, which names no directory.
    let (head, tail) := if tail.isEmpty then Path.split head else (head, tail)
    let (d, made) : Disk × Except Fault Bool :=
      if !head.isEmpty && !tail.isEmpty && !d.contains head then
        match makeDirectoriesFrom fuel d head with
        -- The parent is there after all, be it a directory or not.
        | (d, .error .fileExists) => (d, .ok (tail == "."))
        | (d, .error e) => (d, .error e)
        | (d, .ok ()) => (d, .ok (tail == "."))
      else (d, .ok false)
    match made with
    | .error e => (d, .error e)
    | .ok true => (d, .ok ())
    | .ok false =>
      match d.makeDirectory p with
      | .ok d => (d, .ok ())
      -- A directory that is there already is as good as a new one.
      | .error e => if d.isDirectory p then (d, .ok ()) else (d, .error e)

/-- Makes a directory and those that it lies in, where they are missing. -/
def makeDirectories (d : Disk) (p : String) : Disk × Except Fault Unit :=
  makeDirectoriesFrom (p.length + 1) d p

/-- Moves a file to another place, in place of what was there. -/
def rename (d : Disk) (source target : String) : Except Fault Disk := do
  let a ← d.locate source
  let b ← d.locate target
  if endsInDots source || endsInDots target then .error .busy
  else
    match d.get? a with
    | none => .error .notFound
    | some .directory => .error .isADirectory
    | some (.file bytes) =>
      if namesDirectory source || namesDirectory target then .error .notADirectory
      else if d.get? b == some .directory then .error .isADirectory
      -- A file that is renamed to itself is taken away and put back.
      else .ok ((d.erase a).put b (.file bytes))

/-- Takes a file away. -/
def remove (d : Disk) (p : String) : Except Fault Disk := do
  let l ← d.locate p
  match d.get? l with
  | none => .error .notFound
  | some .directory => .error .isADirectory
  | some (.file _) =>
    if namesDirectory p then .error .notADirectory else .ok (d.erase l)

/-- The name of an entry directly inside a location. -/
def childName? (l k : Location) : Option String :=
  if k.dropLast == l then k.getLast? else none

/-- The names in a directory, each once. -/
def namesAt (d : Disk) (l : Location) : List String :=
  (d.entries.filterMap fun e => childName? l e.1).eraseDups

/-- The names in the directory that a path leads to. -/
def names (d : Disk) (p : String) : Except Fault (List String) := do
  let l ← d.locate p
  match d.get? l with
  | none => .error .notFound
  | some (.file _) => .error .notADirectory
  | some .directory => .ok (d.namesAt l)

end Disk

end OpcodeForge
