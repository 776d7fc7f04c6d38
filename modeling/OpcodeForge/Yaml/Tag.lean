import OpcodeForge.Value.Date
import OpcodeForge.Yaml.Cursor

/-!
# Tags

A tag says what kind of value a node is. A plain text without a tag is given one
by its form: some words are truth values or nothing, and numbers and dates are
recognised by their digits. Numbers may have underscores among their digits, may
be written to the base two, eight or sixteen, and in groups to the base sixty.

A line feed at the end of a text does not change its form.

## Main definitions

* `Yaml.Tag`: The kinds of values.
* `Yaml.Timestamp.ofText?`: A date as it is written.
* `Yaml.Tag.ofPlain`: The tag of a plain text.
-/

namespace OpcodeForge.Yaml

/-- What kind of value a node is. -/
inductive Tag
  | null
  | bool
  | int
  | float
  | binary
  | timestamp
  | orderedMap
  | pairs
  | set
  | text
  | sequence
  | mapping
  /-- The mark of a key whose value is merged into the mapping. -/
  | merge
  /-- The mark of a key whose value stands for the mapping. -/
  | default
  | unknown
  deriving DecidableEq, Repr

/-- What the names of the known tags start with. -/
def tagAuthority : String := "tag:yaml.org,2002:"

/-- The known tags and the ends of their names. -/
def Tag.names : List (String × Tag) := [
  ("null", .null), ("bool", .bool), ("int", .int), ("float", .float),
  ("binary", .binary), ("timestamp", .timestamp), ("omap", .orderedMap),
  ("pairs", .pairs), ("set", .set), ("str", .text), ("seq", .sequence),
  ("map", .mapping), ("merge", .merge), ("value", .default)]

/-- The tag with a name. -/
def Tag.ofName (name : String) : Tag :=
  ((Tag.names.find? fun t => name == tagAuthority ++ t.1).map (·.2)).getD .unknown

/-- The text without a line feed at its end. -/
def dropFinalBreak (cs : List Char) : List Char :=
  if cs.getLast? == some '\n' then cs.dropLast else cs

/-- A date as it is written. -/
structure Timestamp where
  year : List Char
  month : List Char
  day : List Char
  /-- Hour, minute and second, and the digits of its fraction. -/
  time : Option (List Char × List Char × List Char × List Char)
  /-- The sign, the hours and the minutes of the offset. It has no sign if the time
      is said to be universal. -/
  offset : Option (Option Char × List Char × List Char)
  deriving DecidableEq, Repr

namespace Timestamp

/-- One or two digits, and the rest. -/
def shortNumber? : List Char → Option (List Char × List Char)
  | c :: d :: rest =>
    if c.isDigit && d.isDigit then some ([c, d], rest)
    else if c.isDigit then some ([c], d :: rest)
    else none
  | [c] => if c.isDigit then some ([c], []) else none
  | [] => none

/-- Exactly two digits, and the rest. -/
def twoDigits? : List Char → Option (List Char × List Char)
  | c :: d :: rest => if c.isDigit && d.isDigit then some ([c, d], rest) else none
  | _ => none

/-- The offset that a text consists of, or nothing if it is empty. -/
def offset? (cs : List Char) :
    Option (Option (Option Char × List Char × List Char)) :=
  match cs.dropWhile Text.isSpaceTab with
  -- Blanks without an offset behind them do not belong to a date.
  | [] => if cs.isEmpty then some none else none
  | ['Z'] => some (some (none, [], []))
  | c :: rest =>
    if c == '+' || c == '-' then
      match shortNumber? rest with
      | some (hours, []) => some (some (some c, hours, []))
      | some (hours, ':' :: rest) =>
        match twoDigits? rest with
        | some (minutes, []) => some (some (some c, hours, minutes))
        | _ => none
      | _ => none
    else none

/-- The time of day at the start of a text, and the rest. -/
def time? (cs : List Char) :
    Option ((List Char × List Char × List Char × List Char) × List Char) := do
  let (hour, rest) ← shortNumber? cs
  let (minute, rest) ← twoDigits? (← [':'].isPrefixOf? rest)
  let (second, rest) ← twoDigits? (← [':'].isPrefixOf? rest)
  match rest with
  | '.' :: rest =>
    return ((hour, minute, second, rest.takeWhile Char.isDigit),
      rest.dropWhile Char.isDigit)
  | rest => return ((hour, minute, second, []), rest)

/-- What follows the sign between a day and a time: a letter, or blanks. -/
def afterDay? : List Char → Option (List Char)
  | [] => none
  | c :: rest =>
    if c == 'T' || c == 't' then some rest
    else if Text.isSpaceTab c then some (rest.dropWhile Text.isSpaceTab)
    else none

/-- A date as a text has it. -/
def ofText? (cs : List Char) : Option Timestamp := do
  let cs := dropFinalBreak cs
  -- The four digits of a year are two pairs.
  let (y, rest) ← twoDigits? cs
  let (z, rest) ← twoDigits? rest
  let (month, rest) ← shortNumber? (← ['-'].isPrefixOf? rest)
  let (day, rest) ← shortNumber? (← ['-'].isPrefixOf? rest)
  if rest.isEmpty then return ⟨y ++ z, month, day, none, none⟩
  else
    let (time, rest) ← time? (← afterDay? rest)
    let offset ← offset? rest
    return ⟨y ++ z, month, day, some time, offset⟩

end Timestamp

/-- The digits of decimal numbers, with underscores. -/
def isDigitOrLine (c : Char) : Bool :=
  c.isDigit || c == '_'

/-- Whether digits are left that are all of one kind. -/
def allSome (p : Char → Bool) (cs : List Char) : Bool :=
  !cs.isEmpty && cs.all p

/-- What follows groups to the base sixty, of which there must be at least one. -/
def afterGroups? : Nat → Bool → List Char → Option (List Char)
  | 0, _, _ => none
  | fuel + 1, found, cs =>
    match cs with
    | ':' :: c :: d :: rest =>
      if '0' ≤ c && c ≤ '5' && d.isDigit then afterGroups? fuel true rest
      else if c.isDigit then afterGroups? fuel true (d :: rest)
      else none
    | [':', c] => if c.isDigit then some [] else none
    | cs => if found then some cs else none

/-- Whether a number has a minus sign, and the text without its sign. -/
def splitSign : List Char → Bool × List Char
  | '-' :: rest => (true, rest)
  | '+' :: rest => (false, rest)
  | cs => (false, cs)

/-- Whether a text has the form of an integer. -/
def isIntForm (cs : List Char) : Bool :=
  match (splitSign cs).2 with
  | '0' :: 'b' :: rest => allSome (fun c => c == '0' || c == '1' || c == '_') rest
  | '0' :: 'x' :: rest =>
    allSome (fun c => c == '_' || c.isDigit || ('a' ≤ c && c ≤ 'f')
      || ('A' ≤ c && c ≤ 'F')) rest
  -- A zero alone is an integer, and before other digits it marks the base eight.
  | '0' :: rest => rest.all fun c => ('0' ≤ c && c ≤ '7') || c == '_'
  | c :: rest =>
    c.isDigit && (match rest.dropWhile isDigitOrLine with
      | [] => true
      -- What is no digit must start groups to the base sixty, up to the end.
      | groups => afterGroups? (groups.length + 1) false groups == some [])
  | [] => false

/-- Whether a text is an exponent with a sign, or empty. -/
def isExponentForm : List Char → Bool
  | [] => true
  | e :: s :: ds =>
    (e == 'e' || e == 'E') && (s == '+' || s == '-') && allSome Char.isDigit ds
  | _ => false

/-- Whether a text has the form of a number with a point. -/
def isFloatForm (cs : List Char) : Bool :=
  match cs with
  | '.' :: c :: rest =>
    (c.isDigit && isExponentForm (rest.dropWhile isDigitOrLine))
      || ["inf", "Inf", "INF", "nan", "NaN", "NAN"].contains (String.ofList (c :: rest))
  | _ =>
    match (splitSign cs).2 with
    | '.' :: rest => ["inf", "Inf", "INF"].contains (String.ofList rest)
    | c :: rest =>
      c.isDigit && (match rest.dropWhile isDigitOrLine with
        | '.' :: part => isExponentForm (part.dropWhile isDigitOrLine)
        | groups =>
          match afterGroups? (groups.length + 1) false groups with
          -- A point ends the groups, and there is no exponent behind them.
          | some ('.' :: part) => part.all isDigitOrLine
          | _ => false)
    | [] => false

/-- The words for truth values. -/
def truthWords : List String := [
  "yes", "Yes", "YES", "no", "No", "NO", "true", "True", "TRUE", "false", "False",
  "FALSE", "on", "On", "ON", "off", "Off", "OFF"]

/-- The words for nothing. -/
def nullWords : List String := ["~", "null", "Null", "NULL"]

/-- The signs that start a tag, an anchor and an alias. A text that is one of them,
    which only a quoted text can be, has the form of no value. -/
def signWords : List String := ["!", "&", "*"]

/-- Whether a text has the form of a date. Without a time, month and day have two
    digits. -/
def isTimestampForm (cs : List Char) : Bool :=
  match Timestamp.ofText? cs with
  | none => false
  | some t => t.time.isSome || (t.month.length == 2 && t.day.length == 2)

/-- The tag that a plain text has by its form. -/
def Tag.ofPlain (cs : List Char) : Tag :=
  let form := dropFinalBreak cs
  let word := String.ofList form
  if cs.isEmpty then .null
  else if truthWords.contains word then .bool
  else if isFloatForm form then .float
  else if isIntForm form then .int
  else if word == "<<" then .merge
  else if nullWords.contains word then .null
  else if isTimestampForm cs then .timestamp
  else if word == "=" then .default
  else if signWords.contains word then .unknown
  else .text

end OpcodeForge.Yaml
