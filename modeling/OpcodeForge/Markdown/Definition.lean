import OpcodeForge.Markdown.Line
import OpcodeForge.Text.Blank
import OpcodeForge.Text.Digit

/-!
# Link Definitions

A paragraph may start with definitions of link labels. They are no text of the
document and vanish from it, so a reader of headings and tables has to know
exactly where one ends: after its label, its destination, or its title, each of
which may stand in a line of its own.

A definition takes in one line after the other, and only lines that could go on
a paragraph. A `Cursor` is a place inside it: the rest of the lines taken in, and
the lines that are still to come. A title that turns out not to end, or to have
something behind it, is given back, and with it the lines that it took.

A destination with a scheme that runs code or reads files makes no definition,
except for the data of four kinds of image. Escapes are resolved before this is
decided; of the named characters only those can matter that stand for a blank
or for the punctuation of a scheme.

## Main definitions

* `Markdown.Cursor`: A place inside a definition.
* `Markdown.isSafeDestination`: Whether a link may lead to a destination.
* `Markdown.afterDefinition?`: The lines after a definition.
-/

namespace OpcodeForge.Markdown

/-- A place inside a definition: what is left of the lines taken in, each with
    its line feed, and the lines not taken in. -/
structure Cursor where
  rest : List Char
  more : List Line
  deriving DecidableEq, Repr

/-- Takes in one more line, if there is one that goes on the paragraph. -/
def Cursor.next? (goesOn : List Line → Bool) (c : Cursor) : Option Cursor :=
  match c.more with
  | [] => none
  | l :: ls =>
    if goesOn (l :: ls) then some ⟨c.rest ++ l.body ++ ['\n'], ls⟩ else none

/-- The place after a line feed has been read, in the next line if it is taken
    in. -/
def Cursor.afterBreak (goesOn : List Line → Bool) (rest : List Char)
    (more : List Line) : Cursor :=
  (Cursor.next? goesOn ⟨rest, more⟩).getD ⟨rest, more⟩

/-- The number of characters that can be read from a place on. -/
def Cursor.size (c : Cursor) : Nat :=
  c.more.foldl (fun n l => n + l.body.length + 1) c.rest.length

/-- Reads the label up to its closing bracket. `filled` says whether anything but
    blanks has been read. -/
def readLabel (goesOn : List Line → Bool) : Nat → Bool → Cursor → Option Cursor
  | 0, _, _ => none
  | fuel + 1, filled, c =>
    match c.rest with
    | [] => none
    | '[' :: _ => none
    | ']' :: rest => if filled then some ⟨rest, c.more⟩ else none
    | '\n' :: rest => readLabel goesOn fuel filled (.afterBreak goesOn rest c.more)
    | '\\' :: '\n' :: rest => readLabel goesOn fuel true (.afterBreak goesOn rest c.more)
    | '\\' :: _ :: rest => readLabel goesOn fuel true ⟨rest, c.more⟩
    | x :: rest => readLabel goesOn fuel (filled || !Text.isBlank x) ⟨rest, c.more⟩

/-- Skips spaces, tabs and line ends. -/
def skipBlanks (goesOn : List Line → Bool) : Nat → Cursor → Cursor
  | 0, c => c
  | fuel + 1, c =>
    match c.rest with
    | '\n' :: rest => skipBlanks goesOn fuel (.afterBreak goesOn rest c.more)
    | ' ' :: rest => skipBlanks goesOn fuel ⟨rest, c.more⟩
    | '\t' :: rest => skipBlanks goesOn fuel ⟨rest, c.more⟩
    | _ => c

/-- Reads a destination in angle brackets after the first of them. -/
def readBracketed (read : List Char) : List Char → Option (List Char × List Char)
  | [] => none
  | '\n' :: _ => none
  | '<' :: _ => none
  | '>' :: rest => some (read.reverse, rest)
  | '\\' :: c :: rest => readBracketed (c :: '\\' :: read) rest
  | c :: rest => readBracketed (c :: read) rest

/-- Reads a destination without brackets, with `depth` parentheses open. -/
def readBare (read : List Char) (depth : Nat) :
    List Char → Option (List Char × List Char)
  | [] => bareEnd read depth []
  | '\\' :: c :: rest =>
    if c == ' ' then bareEnd read depth ('\\' :: c :: rest)
    else readBare (c :: '\\' :: read) depth rest
  | c :: rest =>
    if c.toNat ≤ 0x20 || c.toNat == 0x7F then bareEnd read depth (c :: rest)
    else if c == '(' then
      -- More parentheses than this are not followed.
      if depth < 32 then readBare (c :: read) (depth + 1) rest else none
    else if c == ')' then
      if depth == 0 then bareEnd read depth (c :: rest)
      else readBare (c :: read) (depth - 1) rest
    else readBare (c :: read) depth rest
where
  /-- A destination ends where its parentheses are closed, and is not empty. -/
  bareEnd (read : List Char) (depth : Nat) (rest : List Char) :
      Option (List Char × List Char) :=
    if read.isEmpty || depth ≠ 0 then none else some (read.reverse, rest)

/-- Reads a destination, and what is left after it. -/
def readDestination : List Char → Option (List Char × List Char)
  | '<' :: rest => readBracketed [] rest
  | cs => readBare [] 0 cs

/-- The result of looking for the end of a title in the lines taken in. -/
inductive TitleScan
  /-- The title ends; the rest follows it. -/
  | closed (filled : Bool) (rest : List Char)
  /-- It goes on to the end of the text. -/
  | unfinished (filled : Bool)
  /-- It cannot be a title. -/
  | refused
  deriving DecidableEq, Repr

/-- Looks for the end of a title. -/
def scanTitle (close : Char) (filled : Bool) : List Char → TitleScan
  | [] => .unfinished filled
  | '\\' :: _ :: rest => scanTitle close true rest
  | c :: rest =>
    if c == close then .closed filled rest
    else if c == '(' && close == ')' then .refused
    else scanTitle close true rest

/-- Reads a title up to its end, line by line. The answer also says whether the
    title is not empty. -/
def readTitleLines (goesOn : List Line → Bool) (close : Char) :
    Nat → Bool → List Line → Option (Bool × Cursor)
  | 0, _, _ => none
  | fuel + 1, filled, more =>
    match Cursor.next? goesOn ⟨[], more⟩ with
    | none => none
    | some c =>
      match scanTitle close filled c.rest with
      | .closed filled rest => some (filled, ⟨rest, c.more⟩)
      | .unfinished filled => readTitleLines goesOn close fuel filled c.more
      | .refused => none

/-- The character that closes a title. -/
def titleClose? (c : Char) : Option Char :=
  if c == '"' || c == '\'' then some c
  else if c == '(' then some ')'
  else none

/-- Reads a title. Blanks must come before it, unless it goes beyond the line it
    starts in. -/
def readTitle (goesOn : List Line → Bool) (spaced : Bool) (c : Cursor) :
    Option (Bool × Cursor) :=
  match c.rest with
  | [] => none
  | x :: rest =>
    match titleClose? x with
    | none => none
    | some close =>
      match scanTitle close false rest with
      | .closed filled rest => if spaced then some (filled, ⟨rest, c.more⟩) else none
      | .unfinished filled =>
        readTitleLines goesOn close (c.more.length + 1) filled c.more
      | .refused => none

/-- Whether only blanks are left in a line. -/
def atLineEnd (cs : List Char) : Bool :=
  match cs.dropWhile Text.isSpaceTab with
  | [] => true
  | c :: _ => c == '\n'

/-- The lines after a destination and the title it may have. -/
def afterDestination? (goesOn : List Line → Bool) (c : Cursor) :
    Option (List Line) :=
  let bare := if atLineEnd c.rest then some c.more else none
  -- The title may stand in the next line, which the blanks then take in.
  let title := skipBlanks goesOn (c.size + 1) c
  let spaced := title ≠ c
  match readTitle goesOn spaced title with
  | none => bare
  | some (filled, after) =>
    -- Text behind a title makes it no title, and its lines are given back.
    if atLineEnd after.rest then some after.more
    else if filled then bare
    else none

/-- The character with a code point that may be written by number, or nothing if
    the number stands for no such character. -/
def numbered? (n : Nat) : Option Char :=
  if n < 9 || n == 0xB || (0xE ≤ n && n ≤ 0x1F) || (0x7F ≤ n && n ≤ 0x9F)
      || (0xD800 ≤ n && n ≤ 0xDFFF) || (0xFDD0 ≤ n && n ≤ 0xFDEF)
      || n % 0x10000 == 0xFFFF || n % 0x10000 == 0xFFFE || 0x10FFFF < n then none
  else some (Char.ofNat n)

/-- The named characters that are blanks or belong to a scheme. -/
def namedCharacters : List (String × Char) := [
  ("Tab", '\t'), ("NewLine", '\n'), ("colon", ':'), ("semi", ';'), ("sol", '/'),
  ("nbsp", '\u00A0'), ("NonBreakingSpace", '\u00A0'), ("ensp", '\u2002'),
  ("emsp", '\u2003'), ("emsp13", '\u2004'), ("emsp14", '\u2005'),
  ("numsp", '\u2007'), ("puncsp", '\u2008'), ("thinsp", '\u2009'),
  ("ThinSpace", '\u2009'), ("hairsp", '\u200A'), ("VeryThinSpace", '\u200A'),
  ("MediumSpace", '\u205F')]

/-- The number that a text of hexadecimal digits denotes. -/
def hexNumber? (cs : List Char) : Option Nat :=
  cs.foldlM (fun n c => (Text.hexValue? c).map (n * 16 + ·)) 0

/-- The character that a name between an ampersand and a semicolon stands for. -/
def entity? (name : List Char) : Option Char :=
  match name with
  | '#' :: x :: digits =>
    if (x == 'x' || x == 'X') && !digits.isEmpty && digits.length ≤ 8 then
      (hexNumber? digits).bind numbered?
    else if (x :: digits).all Char.isDigit && digits.length < 8 then
      numbered? (Text.asciiNumber (x :: digits))
    else none
  | _ => namedCharacters.lookup (String.ofList name)

/-- The punctuation that a backslash escapes. -/
def isEscapable (c : Char) : Bool :=
  let n := c.toNat
  (0x21 ≤ n && n ≤ 0x2F) || (0x3A ≤ n && n ≤ 0x40) || (0x5B ≤ n && n ≤ 0x60)
    || (0x7B ≤ n && n ≤ 0x7E)

/-- Resolves the escapes of a destination, with its length as fuel. -/
def unescapeFrom : Nat → List Char → List Char
  | 0, cs => cs
  | _, [] => []
  | fuel + 1, '\\' :: c :: rest =>
    if isEscapable c then c :: unescapeFrom fuel rest
    else '\\' :: unescapeFrom fuel (c :: rest)
  | fuel + 1, '&' :: rest =>
    match rest.dropWhile (· ≠ ';') with
    | ';' :: after =>
      match entity? (rest.takeWhile (· ≠ ';')) with
      | some c => c :: unescapeFrom fuel after
      | none => '&' :: unescapeFrom fuel rest
    | _ => '&' :: unescapeFrom fuel rest
  | fuel + 1, c :: rest => c :: unescapeFrom fuel rest

/-- A destination with its escapes resolved. -/
def unescape (cs : List Char) : List Char :=
  unescapeFrom cs.length cs

/-- The schemes that no link may have. -/
def unsafeSchemes : List String := ["vbscript:", "javascript:", "file:", "data:"]

/-- The data that a link may hold nevertheless. -/
def imageData : List String :=
  ["data:image/gif;", "data:image/png;", "data:image/jpeg;", "data:image/webp;"]

/-- Whether a link may lead to a destination. -/
def isSafeDestination (cs : List Char) : Bool :=
  let cs := (trim (unescape cs)).map Char.toLower
  let starts := fun s : String => s.toList.isPrefixOf cs
  !unsafeSchemes.any starts || imageData.any starts

/-- The lines after the definition that starts in the first of the given lines,
    which goes on into those that `goesOn` lets it take in. -/
def afterDefinition? (goesOn : List Line → Bool) (first : Line)
    (more : List Line) : Option (List Line) := do
  let text ← match first.body with
    | '[' :: text => some (text ++ ['\n'])
    | _ => none
  -- The bracket is read, and the line feed of the first line added.
  let start : Cursor := ⟨text, more⟩
  let label ← readLabel goesOn (start.size + 1) false start
  let after ← match label.rest with
    | ':' :: rest => some { label with rest := rest }
    | _ => none
  let place := skipBlanks goesOn (start.size + 1) after
  let (destination, rest) ← readDestination place.rest
  if isSafeDestination destination then
    afterDestination? goesOn { place with rest := rest }
  else none

end OpcodeForge.Markdown
