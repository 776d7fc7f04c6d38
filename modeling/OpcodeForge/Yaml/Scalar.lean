import OpcodeForge.Yaml.Cursor

/-!
# Scalars of a Configuration Text

The four ways to write a text: plain, in single or double quotes, and as a block
of indented lines. Each function reads one of them from a place, and answers the
text and the place after it.

All of them fold lines: a single line end between words becomes a space, and of
several the first is dropped. A block keeps its line ends if it asks for it, and
otherwise folds only between lines that do not start with a blank. Quoted text
may not run across the marks that part documents.

A place moves on with every step, so the number of characters left is always fuel
enough.

## Main definitions

* `Yaml.scanQuoted`: A text in quotes.
* `Yaml.scanBlock`: A text as a block of lines.
* `Yaml.scanPlain`: A plain text.
-/

namespace OpcodeForge.Yaml

/-- The characters that a backslash and one character stand for. -/
def shortEscapes : List (Char × Char) := [
  ('0', '\x00'), ('a', '\x07'), ('b', '\x08'), ('t', '\t'), ('\t', '\t'),
  ('n', '\n'), ('v', '\x0B'), ('f', '\x0C'), ('r', '\r'), ('e', '\x1B'),
  (' ', ' '), ('"', '"'), ('\\', '\\'), ('/', '/'), ('N', '\u0085'),
  ('_', '\u00A0'), ('L', '\u2028'), ('P', '\u2029')]

/-- The number of digits of an escape by number. -/
def escapeWidth? (c : Char) : Option Nat :=
  if c == 'x' then some 2
  else if c == 'u' then some 4
  else if c == 'U' then some 8
  else none

/-- The number that `width` hexadecimal digits at the start of a text denote. -/
def hexAt? : Nat → Nat → List Char → Option Nat
  | 0, n, _ => some n
  | _ + 1, _, [] => none
  | width + 1, n, c :: rest =>
    match Text.hexValue? c with
    | some d => hexAt? width (n * 16 + d) rest
    | none => none

/-- Whether a code point is one half of a pair, and no character by itself. -/
def isSurrogate (n : Nat) : Bool :=
  0xD800 ≤ n && n ≤ 0xDFFF

/-- The character with a code point. What is no character by itself is replaced. -/
def codePoint (n : Nat) : Except Fault Char :=
  if 0x80000000 ≤ n then .error .hugeCharacter
  else if 0x10FFFF < n then .error .badCharacter
  else .ok (if isSurrogate n then '\uFFFD' else Char.ofNat n)

/-- Reads the blank lines after a line end inside quotes, and the blanks before
    the next word. `read` holds the text so far, backwards. -/
def quotedBreaks : Nat → List Char → Cursor → Except Fault (List Char × Cursor)
  | 0, read, c => .ok (read, c)
  | fuel + 1, read, c =>
    -- A document mark can stand at the start of a line, which is where each round
    -- begins.
    if atDocumentMark c.rest then .error .malformed
    else
      let c := c.skipWhile Text.isSpaceTab
      match c.rest with
      | x :: _ =>
        if isBreak x then quotedBreaks fuel (breakText x :: read) c.next
        else .ok (read, c)
      | [] => .ok (read, c)

/-- Reads one escape in double quotes, from behind the backslash. -/
def quotedEscape (read : List Char) (c : Cursor) :
    Except Fault (List Char × Cursor) :=
  match c.rest with
  | [] => .error .malformed
  | x :: rest =>
    match shortEscapes.lookup x with
    | some y => .ok (y :: read, c.next)
    | none =>
      match escapeWidth? x with
      | some width =>
        match hexAt? width 0 rest with
        | none => .error .malformed
        | some n => (codePoint n).map fun y => (y :: read, c.advance (width + 1))
      | none =>
        -- An escaped line end vanishes, with the blanks after it.
        if isBreak x then quotedBreaks (c.rest.length + 1) read c.next
        else .error .malformed

/-- Reads the blanks between two words in quotes, with the line ends among
    them. -/
def quotedSpaces (read : List Char) (c : Cursor) :
    Except Fault (List Char × Cursor) :=
  let blanks := c.rest.takeWhile Text.isSpaceTab
  let c := c.advance blanks.length
  match c.rest with
  | [] => .error .malformed
  | x :: rest =>
    if isBreak x then
      match quotedBreaks (rest.length + 1) [] c.next with
      | .error e => .error e
      | .ok (breaks, c) =>
        -- A separator stays, a line feed becomes a space or vanishes before others.
        if breakText x ≠ '\n' then .ok (breaks ++ breakText x :: read, c)
        else if breaks.isEmpty then .ok (' ' :: read, c)
        else .ok (breaks ++ read, c)
    else .ok (blanks.reverse ++ read, c)

/-- Reads a text in quotes from behind the opening one. -/
def quotedFrom (double : Bool) : Nat → List Char → Cursor →
    Except Fault (List Char × Cursor)
  | 0, _, _ => .error .malformed
  | fuel + 1, read, c =>
    match c.rest with
    | '\'' :: rest =>
      if double then quotedFrom double fuel ('\'' :: read) c.next
      else if rest.head? == some '\'' then
        quotedFrom double fuel ('\'' :: read) (c.advance 2)
      else .ok (read.reverse, c.next)
    | '"' :: _ =>
      if double then .ok (read.reverse, c.next)
      else quotedFrom double fuel ('"' :: read) c.next
    | '\\' :: _ =>
      if double then
        match quotedEscape read c.next with
        | .error e => .error e
        | .ok (read, c) => quotedFrom double fuel read c
      else quotedFrom double fuel ('\\' :: read) c.next
    | x :: _ =>
      if Text.isSpaceTab x || isBreak x then
        match quotedSpaces read c with
        | .error e => .error e
        | .ok (read, c) => quotedFrom double fuel read c
      else quotedFrom double fuel (x :: read) c.next
    | [] => .error .malformed

/-- Reads a text in double or single quotes. -/
def scanQuoted (double : Bool) (c : Cursor) : Except Fault (List Char × Cursor) :=
  quotedFrom double (c.rest.length + 1) [] c.next

/-- What happens to the line ends at the end of a block. -/
inductive Chomping
  | strip
  | clip
  | keep
  deriving DecidableEq, Repr

/-- The chomping that a sign asks for. -/
def chompingOf? (c : Char) : Option Chomping :=
  if c == '+' then some .keep else if c == '-' then some .strip else none

/-- Reads the signs behind the mark of a block: how to end it, and how far it is
    indented. -/
def blockSigns (c : Cursor) : Except Fault (Chomping × Option Nat × Cursor) :=
  let result := match c.rest with
    | [] => (Chomping.clip, none, c)
    | x :: rest =>
      match chompingOf? x with
      | some chomping =>
        match rest with
        | d :: _ =>
          if d.isDigit then (chomping, some (d.toNat - 48), c.advance 2)
          else (chomping, none, c.next)
        | [] => (chomping, none, c.next)
      | none =>
        if x.isDigit then
          match rest.head?.bind chompingOf? with
          | some chomping => (chomping, some (x.toNat - 48), c.advance 2)
          | none => (.clip, some (x.toNat - 48), c.next)
        else (.clip, none, c)
  -- The signs may come in either order, but there is nothing else behind the mark.
  if result.2.1 == some 0 || !atSpace result.2.2.rest then .error .malformed
  else .ok result

/-- Reads the blank lines before a block whose indentation is not given. The
    answer has their line ends, backwards, and the greatest column among them. -/
def blockMargin : Nat → List Char → Nat → Cursor → List Char × Nat × Cursor
  | 0, read, column, c => (read, column, c)
  | fuel + 1, read, column, c =>
    match c.rest with
    | [] => (read, column, c)
    | x :: _ =>
      if x == ' ' then blockMargin fuel read (max column c.next.column) c.next
      else if isBreak x then blockMargin fuel (breakText x :: read) column c.next
      else (read, column, c)

/-- The place after the spaces that belong to the indentation of a block. -/
def skipIndent (indent : Nat) (c : Cursor) : Cursor :=
  c.advance ((c.rest.take (indent - c.column)).takeWhile (· == ' ')).length

/-- Reads the blank lines inside a block, and the indentation of the next line.
    The answer has their line ends, backwards. -/
def blockBreaks (indent : Nat) : Nat → List Char → Cursor → List Char × Cursor
  | 0, read, c => (read, c)
  | fuel + 1, read, c =>
    let c := skipIndent indent c
    match c.rest with
    | [] => (read, c)
    | x :: _ =>
      if isBreak x then blockBreaks indent fuel (breakText x :: read) c.next
      else (read, c)

/-- Whether a line starts with a blank. -/
def startsBlank (cs : List Char) : Bool :=
  cs.head? == some ' ' || cs.head? == some '\t'

/-- Reads the lines of a block. `read` holds the text so far and `breaks` the line
    ends after it, both backwards. The answer leaves out the last line end, and
    has it apart with the blank lines after it. -/
def blockLines (folded : Bool) (indent : Nat) : Nat → List Char → List Char →
    Cursor → List Char × Option Char × List Char × Cursor
  | 0, read, breaks, c => (read, none, breaks, c)
  | fuel + 1, read, breaks, c =>
    if c.column ≠ indent || c.rest.isEmpty then (read, none, breaks, c)
    else
      let line := c.rest.takeWhile fun x => !isBreak x
      -- The blank lines before this one are known to lie inside the block now.
      let read := line.reverse ++ breaks ++ read
      let c := c.advance line.length
      let ending := c.rest.head?.map breakText
      let (breaks, c) := blockBreaks indent (c.rest.length + 1) [] c.next
      if c.column == indent && !c.rest.isEmpty then
        -- Lines are joined if neither starts with a blank, which would make it stand by
        -- itself.
        let joins := folded && ending == some '\n' && !startsBlank line
          && !startsBlank c.rest
        let read :=
          if joins then (if breaks.isEmpty then ' ' :: read else read)
          else ending.toList ++ read
        blockLines folded indent fuel read breaks c
      else (read, ending, breaks, c)

/-- Reads a block of lines in a collection that is indented by `outer`, or in
    none. -/
def scanBlock (folded : Bool) (outer : Int) (c : Cursor) :
    Except Fault (List Char × Cursor) := do
  let (chomping, increment, c) ← blockSigns c.next
  let c ← c.finishLine
  -- A block is indented by one column at least, even outside all collections.
  let least := max (outer + 1).toNat 1
  let (breaks, indent, c) :=
    match increment with
    | none =>
      let (breaks, column, c) := blockMargin (c.rest.length + 1) [] 0 c
      -- Without a sign the deepest of the blank lines and the first line decide.
      (breaks, max least column, c)
    | some n =>
      let indent := least + n - 1
      let (breaks, c) := blockBreaks indent (c.rest.length + 1) [] c
      (breaks, indent, c)
  let (read, ending, breaks, c) :=
    blockLines folded indent (c.rest.length + 1) [] breaks c
  let read := if chomping == .strip then read else ending.toList ++ read
  let read := if chomping == .keep then breaks ++ read else read
  return (read.reverse, c)

/-- The brackets, braces and the comma, which end a plain text inside them. -/
def isFlowMark (c : Char) : Bool :=
  c == ',' || c == '[' || c == ']' || c == '{' || c == '}'

/-- The characters of a plain text up to a blank, a value mark, or a mark that ends
    it inside brackets. -/
def plainWord (inFlow : Bool) : List Char → List Char
  | [] => []
  | x :: rest =>
    -- A colon with text right behind it is a part of the word.
    let marksValue := x == ':' &&
      (atBlank rest || (inFlow && rest.head?.any isFlowMark))
    if Text.isSpaceTab x || isBreak x || marksValue
        || (inFlow && (isFlowMark x || x == '?')) then []
    else x :: plainWord inFlow rest

/-- Reads the blank lines after a line end in a plain text, and the spaces before
    the next word. The answer has their line ends, backwards, and is nothing if a
    document mark follows. -/
def plainBreaks : Nat → List Char → Cursor → Option (List Char) × Cursor
  | 0, read, c => (some read, c)
  | fuel + 1, read, c =>
    match c.rest with
    | [] => (some read, c)
    | x :: _ =>
      if x == ' ' then plainBreaks fuel read c.next
      else if isBreak x then
        if atDocumentMark c.next.rest then (none, c.next)
        else plainBreaks fuel (breakText x :: read) c.next
      else (some read, c)

/-- What follows a word of a plain text: the blanks to insert before the next one,
    backwards, or nothing if the text ends; whether a line has ended; and the
    place. -/
def plainSpaces (c : Cursor) : Option (List Char) × Bool × Cursor :=
  let blanks := c.rest.takeWhile (· == ' ')
  let c := c.advance blanks.length
  match c.rest with
  | x :: rest =>
    if isBreak x then
      if atDocumentMark rest then (none, true, c.next)
      else match plainBreaks (rest.length + 1) [] c.next with
        | (none, c) => (none, true, c)
        | (some breaks, c) =>
          if breakText x ≠ '\n' then (some (breaks ++ [breakText x]), true, c)
          else (some (if breaks.isEmpty then [' '] else breaks), true, c)
    else (some blanks, false, c)
  | [] => (some blanks, false, c)

/-- Reads the words of a plain text. `lineEnded` says whether a line has ended
    after the last one. -/
def plainFrom (inFlow : Bool) (indent : Int) : Nat → List Char → List Char →
    Bool → Cursor → List Char × Bool × Cursor
  | 0, read, _, lineEnded, c => (read.reverse, lineEnded, c)
  | fuel + 1, read, spaces, lineEnded, c =>
    -- A number sign behind a blank starts a comment, which ends the text.
    let word := if c.rest.head? == some '#' then [] else plainWord inFlow c.rest
    if word.isEmpty then (read.reverse, lineEnded, c)
    else
      let read := word.reverse ++ spaces ++ read
      match plainSpaces (c.advance word.length) with
      | (none, lineEnded, c) => (read.reverse, lineEnded, c)
      | (some spaces, lineEnded, c) =>
        if spaces.isEmpty || c.rest.head? == some '#'
            || (!inFlow && c.column < indent) then
          (read.reverse, lineEnded, c)
        else plainFrom inFlow indent fuel read spaces lineEnded c

/-- Reads a plain text in a collection that is indented by `outer`. The answer
    also says whether the place is at the start of a line. -/
def scanPlain (inFlow : Bool) (outer : Int) (c : Cursor) :
    List Char × Bool × Cursor :=
  plainFrom inFlow (outer + 1) (c.rest.length + 1) [] [] false c

end OpcodeForge.Yaml
