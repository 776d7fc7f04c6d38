import OpcodeForge.Text.Encoding
import OpcodeForge.Yaml.Scalar

/-!
# Tokens of a Configuration Text

A configuration text shows its structure by columns, and the tokens make it
explicit: a block collection has a token where it starts and one where it ends.

A mapping is recognised only by the colon behind its first key. So when a token
could be a key, its place among the tokens is remembered, and when a colon
follows on the same line and within 1024 characters, the tokens that announce
the key are put in there. At most one key can be pending at each depth of
brackets. A key that stands where only a key can stand must be followed by its
colon.

The tokens read so far are kept backwards, the last one first.

## Main definitions

* `Yaml.Token`: A token.
* `Yaml.Scanner`: The state between two tokens.
* `Yaml.scanTokens`: The tokens of a text.
-/

namespace OpcodeForge.Yaml

/-- A line that says how to read a document. -/
inductive Directive
  | version (major minor : Nat)
  | tagHandle (handle : String) (expansion : String)
  | unknown
  deriving DecidableEq, Repr

/-- A token of a configuration text. -/
inductive Token
  | directive (d : Directive)
  | documentStart
  | documentEnd
  | blockSequenceStart
  | blockMappingStart
  | blockEnd
  | flowSequenceStart
  | flowSequenceEnd
  | flowMappingStart
  | flowMappingEnd
  | blockEntry
  | flowEntry
  | key
  | value
  | alias (name : String)
  | anchor (name : String)
  | tag (handle : Option String) (suffix : String)
  | scalar (text : List Char) (plain : Bool)
  deriving DecidableEq, Repr

/-- A token that could turn out to be a key. -/
structure PendingKey where
  /-- The number of tokens before it. -/
  before : Nat
  /-- Whether nothing but a key can stand in its place. -/
  required : Bool
  index : Nat
  line : Nat
  column : Nat
  deriving DecidableEq, Repr

/-- The state between two tokens. -/
structure Scanner where
  place : Cursor
  /-- The tokens read so far, backwards. -/
  tokens : List Token
  /-- The number of brackets and braces that are open. -/
  depth : Nat
  /-- The column of the innermost block collection, or -1. -/
  indent : Int
  /-- The columns of the collections around it, the nearest first. -/
  outer : List Int
  /-- Whether a key may start here. -/
  keyAllowed : Bool
  /-- The pending keys with their depths. -/
  pending : List (Nat × PendingKey)
  deriving DecidableEq, Repr

namespace Scanner

/-- The state before the first token. -/
def start (cs : List Char) : Scanner where
  place := .start cs
  tokens := []
  depth := 0
  indent := -1
  outer := []
  keyAllowed := true
  pending := []

/-- Whether brackets or braces are open. -/
def inFlow (s : Scanner) : Bool := s.depth ≠ 0

/-- Adds a token. -/
def push (s : Scanner) (t : Token) : Scanner :=
  { s with tokens := t :: s.tokens }

/-- Adds a token that takes some characters. -/
def take (s : Scanner) (n : Nat) (t : Token) : Scanner :=
  { s.push t with place := s.place.advance n }

/-- Skips blanks, comments and line ends up to the next token. A key may start in
    a new line. -/
def skipToToken : Nat → Scanner → Scanner
  | 0, s => s
  | fuel + 1, s =>
    let place := (s.place.skipWhile (· == ' ')).skipComment
    match place.rest with
    | x :: _ =>
      if isBreak x then
        skipToToken fuel
          { s with place := place.next, keyAllowed := s.keyAllowed || !s.inFlow }
      else { s with place := place }
    | [] => { s with place := place }

/-- Whether a pending key is too far back. -/
def isStale (s : Scanner) (k : PendingKey) : Bool :=
  k.line ≠ s.place.line || k.index + 1024 < s.place.index

/-- Drops the pending keys that are too far back. -/
def dropStale (s : Scanner) : Except Fault Scanner :=
  -- A required key without its colon is an error as soon as it is too far back.
  if s.pending.any fun (_, k) => s.isStale k && k.required then .error .malformed
  else .ok { s with pending := s.pending.filter fun (_, k) => !s.isStale k }

/-- Drops the pending key at the current depth. -/
def dropPending (s : Scanner) : Except Fault Scanner :=
  match s.pending.lookup s.depth with
  | some k =>
    if k.required then .error .malformed
    else .ok { s with pending := s.pending.filter fun (d, _) => d ≠ s.depth }
  | none => .ok s

/-- Remembers that the next token could be a key. -/
def savePending (s : Scanner) : Except Fault Scanner :=
  if s.keyAllowed then do
    -- At the column of the innermost mapping there are only keys.
    let required := !s.inFlow && s.indent == s.place.column
    let s ← s.dropPending
    let k : PendingKey :=
      ⟨s.tokens.length, required, s.place.index, s.place.line, s.place.column⟩
    return { s with pending := (s.depth, k) :: s.pending }
  else .ok s

/-- Ends the block collections that are indented more than a column. -/
def unwind (column : Int) : List Int → Scanner → Scanner
  | [], s => s
  | outer :: rest, s =>
    if column < s.indent then
      unwind column rest { s.push .blockEnd with indent := outer, outer := rest }
    else s

/-- Ends the block collections that are indented more than a column, unless
    brackets are open. -/
def unwindTo (column : Int) (s : Scanner) : Scanner :=
  if s.inFlow then s else unwind column s.outer s

/-- Whether a column starts a new block collection, and the state inside it. -/
def enterBlock? (column : Nat) (s : Scanner) : Option Scanner :=
  if s.indent < column then
    some { s with indent := column, outer := s.indent :: s.outer }
  else none

/-- Puts tokens in after the first `before` ones. -/
def insertAt (before : Nat) (ts : List Token) (s : Scanner) : Scanner :=
  -- The tokens are backwards, so the newer ones come first.
  let newer := s.tokens.take (s.tokens.length - before)
  let older := s.tokens.drop (s.tokens.length - before)
  { s with tokens := newer ++ ts.reverse ++ older }

/-- A mark that parts documents, or a line that says how to read one: no block
    and no key goes on across it. -/
def resetBlocks (s : Scanner) : Except Fault Scanner := do
  let s ← (s.unwindTo (-1)).dropPending
  return { s with keyAllowed := false }

/-- An opening bracket or brace. -/
def openFlow (t : Token) (s : Scanner) : Except Fault Scanner := do
  let s ← s.savePending
  return { s.take 1 t with depth := s.depth + 1, keyAllowed := true }

/-- A closing bracket or brace. Outside of all brackets it cannot stand. -/
def closeFlow (t : Token) (s : Scanner) : Except Fault Scanner := do
  let s ← s.dropPending
  if s.depth == 0 then .error .malformed
  else return { s.take 1 t with depth := s.depth - 1, keyAllowed := false }

/-- A comma inside brackets. -/
def flowEntry (s : Scanner) : Except Fault Scanner := do
  let s ← s.dropPending
  return { s.take 1 .flowEntry with keyAllowed := true }

/-- Starts a block collection at this column if there is none yet. -/
def startBlock (t : Token) (s : Scanner) : Except Fault Scanner :=
  if s.inFlow then .ok s
  else if !s.keyAllowed then .error .malformed
  else match s.enterBlock? s.place.column with
    | some inner => .ok (inner.push t)
    | none => .ok s

/-- A dash that starts an entry. -/
def blockEntry (s : Scanner) : Except Fault Scanner := do
  let s ← (← s.startBlock .blockSequenceStart).dropPending
  return { s.take 1 .blockEntry with keyAllowed := true }

/-- A question mark that starts a key. -/
def explicitKey (s : Scanner) : Except Fault Scanner := do
  let s ← (← s.startBlock .blockMappingStart).dropPending
  return { s.take 1 .key with keyAllowed := !s.inFlow }

/-- A colon. It makes a key of the token that is pending. -/
def valueMark (s : Scanner) : Except Fault Scanner :=
  match s.pending.lookup s.depth with
  | some k =>
    let s := { s with pending := s.pending.filter fun (d, _) => d ≠ s.depth }
    -- The key opens a mapping if it is indented more than what is around it.
    let entered := if s.inFlow then none else s.enterBlock? k.column
    let s := match entered with
      | some inner => inner.insertAt k.before [.blockMappingStart, .key]
      | none => s.insertAt k.before [.key]
    .ok { s.take 1 .value with keyAllowed := false }
  | none => do
    -- Without a pending key the colon follows an empty or an explicit one.
    let s ← s.startBlock .blockMappingStart
    let s ← s.dropPending
    return { s.take 1 .value with keyAllowed := !s.inFlow }

/-- The characters of a name. -/
def isNameChar (c : Char) : Bool :=
  c.isAlphanum || c == '-' || c == '_'

/-- Whether the name of an anchor or an alias may end here. -/
def endsName (cs : List Char) : Bool :=
  atBlank cs || cs.head?.any fun c =>
    c == '?' || c == ':' || c == ',' || c == ']' || c == '}' || c == '%'
      || c == '@' || c == Char.ofNat 0x60

/-- The name behind the mark of an anchor or an alias. -/
def scanName (c : Cursor) : Except Fault (String × Cursor) :=
  let name := c.next.rest.takeWhile isNameChar
  let after := c.next.advance name.length
  if name.isEmpty || !endsName after.rest then .error .malformed
  else .ok (String.ofList name, after)

/-- An anchor or an alias. -/
def named (t : String → Token) (s : Scanner) : Except Fault Scanner := do
  let s ← s.savePending
  let (name, place) ← scanName s.place
  return { s.push (t name) with place := place, keyAllowed := false }

/-- The characters of the rest of a tag, apart from the percent sign. -/
def isTagChar (c : Char) : Bool :=
  c.isAlphanum || "-;/?:@&=+$,_.!~*'()[]".toList.contains c

/-- Reads the bytes behind percent signs, as far as they go. -/
def scanEscapedBytes : Nat → List UInt8 → Cursor →
    Except Fault (List UInt8 × Cursor)
  | 0, read, c => .ok (read.reverse, c)
  | fuel + 1, read, c =>
    match c.rest with
    | '%' :: rest =>
      match hexAt? 2 0 rest with
      | some n => scanEscapedBytes fuel (n.toUInt8 :: read) (c.advance 3)
      | none => .error .malformed
    | _ => .ok (read.reverse, c)

/-- Reads the rest of a tag, backwards. -/
def scanTagChars : Nat → List Char → Cursor → Except Fault (List Char × Cursor)
  | 0, read, c => .ok (read, c)
  | fuel + 1, read, c =>
    match c.rest with
    | [] => .ok (read, c)
    | x :: _ =>
      if x == '%' then
        match scanEscapedBytes (c.rest.length + 1) [] c with
        | .error e => .error e
        | .ok (bytes, c) =>
          match Text.decode bytes with
          | .ok cs => scanTagChars fuel (cs.reverse ++ read) c
          | .error _ => .error .malformed
      else if isTagChar x then scanTagChars fuel (x :: read) c.next
      else .ok (read, c)

/-- The rest of a tag, which is not empty. -/
def scanTagRest (c : Cursor) : Except Fault (String × Cursor) := do
  let (read, after) ← scanTagChars (c.rest.length + 1) [] c
  if after.index == c.index then .error .malformed
  else return (String.ofList read.reverse, after)

/-- The handle of a tag: an exclamation mark, or a name between two of them. -/
def scanTagHandle (c : Cursor) : Except Fault (String × Cursor) :=
  match c.rest with
  | '!' :: rest =>
    if rest.head? == some ' ' then .ok ("!", c.next)
    else
      let name := rest.takeWhile isNameChar
      if rest[name.length]? == some '!' then
        .ok (String.ofList ('!' :: name ++ ['!']), c.advance (name.length + 2))
      else .error .malformed
  | _ => .error .malformed

/-- Whether a second exclamation mark belongs to the tag that starts here. -/
def hasHandle (rest : List Char) : Bool :=
  (rest.takeWhile fun x => x ≠ ' ' && !isBreak x).contains '!'

/-- Reads a tag: verbatim in angle brackets, the lone mark, or a handle with a
    suffix. -/
def scanTag (c : Cursor) : Except Fault (Option String × String × Cursor) := do
  let rest := c.rest.tail
  let (handle, suffix, c) ←
    if rest.head? == some '<' then do
      let (suffix, c) ← scanTagRest (c.advance 2)
      if c.rest.head? == some '>' then .ok (none, suffix, c.next)
      else .error .malformed
    else if atBlank rest then .ok (none, "!", c.next)
    else do
      -- A mark with no other one behind it is a handle by itself.
      let (handle, c) ← if hasHandle rest then scanTagHandle c else .ok ("!", c.next)
      let (suffix, c) ← scanTagRest c
      .ok (some handle, suffix, c)
  if atSpace c.rest then .ok (handle, suffix, c) else .error .malformed

/-- A tag. -/
def tagged (s : Scanner) : Except Fault Scanner := do
  let s ← s.savePending
  let (handle, suffix, place) ← scanTag s.place
  return { s.push (.tag handle suffix) with place := place, keyAllowed := false }

/-- A text as a block of lines. -/
def blockScalar (folded : Bool) (s : Scanner) : Except Fault Scanner := do
  let s ← s.dropPending
  let (text, place) ← scanBlock folded s.indent s.place
  return { s.push (.scalar text false) with place := place, keyAllowed := true }

/-- A text in quotes. -/
def quotedScalar (double : Bool) (s : Scanner) : Except Fault Scanner := do
  let s ← s.savePending
  let (text, place) ← scanQuoted double s.place
  return { s.push (.scalar text false) with place := place, keyAllowed := false }

/-- A plain text. -/
def plainScalar (s : Scanner) : Except Fault Scanner := do
  let s ← s.savePending
  -- After a line end a key may start, so the token must say whether there was one.
  let (text, lineEnded, place) := scanPlain s.inFlow s.indent s.place
  return { s.push (.scalar text true) with place := place, keyAllowed := lineEnded }

/-- A number in a directive. -/
def scanVersionPart (c : Cursor) : Except Fault (Nat × Cursor) :=
  let digits := c.rest.takeWhile Char.isDigit
  if digits.isEmpty then .error .malformed
  else match Number.natural? 10 digits with
    | some n => .ok (n, c.advance digits.length)
    | none => .error .badNumber

/-- The two numbers of a version. -/
def scanVersion (c : Cursor) : Except Fault (Directive × Cursor) := do
  let (major, c) ← scanVersionPart (c.skipWhile (· == ' '))
  if c.rest.head? ≠ some '.' then .error .malformed
  else
    let (minor, c) ← scanVersionPart c.next
    if atSpace c.rest then return (.version major minor, c) else .error .malformed

/-- A handle for tags and what it stands for. -/
def scanHandleDefinition (c : Cursor) : Except Fault (Directive × Cursor) := do
  let (handle, c) ← scanTagHandle (c.skipWhile (· == ' '))
  if c.rest.head? ≠ some ' ' then .error .malformed
  else
    let (expansion, c) ← scanTagRest (c.skipWhile (· == ' '))
    if atSpace c.rest then return (.tagHandle handle expansion, c)
    else .error .malformed

/-- A directive. One with an unknown name has no effect. -/
def directive (s : Scanner) : Except Fault Scanner := do
  let s ← s.resetBlocks
  let start := s.place.next
  let name := start.rest.takeWhile isNameChar
  let after := start.advance name.length
  if name.isEmpty || !atSpace after.rest then .error .malformed
  else
    let (d, after) ←
      if name == "YAML".toList then scanVersion after
      else if name == "TAG".toList then scanHandleDefinition after
      else .ok (.unknown, after.skipLine)
    let place ← after.finishLine
    return { s.push (.directive d) with place := place }

/-- Whether a plain text may start here. -/
def startsPlain (inFlow : Bool) (cs : List Char) : Bool :=
  match cs with
  | [] => false
  | x :: rest =>
    !(atBlank cs || "-?:,[]\x7b\x7d#&*!|>'\"%@".toList.contains x
        || x == Char.ofNat 0x60)
      || (!atBlank rest && (x == '-' || (!inFlow && (x == '?' || x == ':'))))

/-- Reads one token, or answers that the text has ended. -/
def step (s : Scanner) : Except Fault (Scanner × Bool) := do
  let s ← (skipToToken (s.place.rest.length + 1) s).dropStale
  -- The column of a token ends the blocks that are indented more.
  let s := s.unwindTo s.place.column
  let more := fun r : Except Fault Scanner => r.map (·, true)
  match s.place.rest with
  | [] =>
    let s ← (s.unwindTo (-1)).dropPending
    return (s, false)
  | x :: rest =>
    let atStart := s.place.column == 0
    -- Marks that can only stand in the first column come first.
    if x == '%' && atStart then more s.directive
    else if (x == '-' || x == '.') && atStart && atDocumentMark (x :: rest) then
      let mark := if x == '-' then Token.documentStart else .documentEnd
      more (s.resetBlocks.map fun s => s.take 3 mark)
    else if x == '[' then more (s.openFlow .flowSequenceStart)
    else if x == '{' then more (s.openFlow .flowMappingStart)
    else if x == ']' then more (s.closeFlow .flowSequenceEnd)
    else if x == '}' then more (s.closeFlow .flowMappingEnd)
    else if x == ',' then more s.flowEntry
    -- A mark with text behind it is the start of a plain text, except inside brackets.
    else if x == '-' && atBlank rest then more s.blockEntry
    else if x == '?' && (s.inFlow || atBlank rest) then more s.explicitKey
    else if x == ':' && (s.inFlow || atBlank rest) then more s.valueMark
    else if x == '*' then more (s.named .alias)
    else if x == '&' then more (s.named .anchor)
    else if x == '!' then more s.tagged
    else if x == '|' && !s.inFlow then more (s.blockScalar false)
    else if x == '>' && !s.inFlow then more (s.blockScalar true)
    else if x == '\'' then more (s.quotedScalar false)
    else if x == '"' then more (s.quotedScalar true)
    else if startsPlain s.inFlow (x :: rest) then more s.plainScalar
    else .error .malformed

/-- Reads tokens up to the end of the text. -/
def run : Nat → Scanner → Except Fault (List Token)
  | 0, s => .ok s.tokens.reverse
  | fuel + 1, s =>
    match s.step with
    | .error e => .error e
    | .ok (s, true) => run fuel s
    | .ok (s, false) => .ok s.tokens.reverse

end Scanner

/-- Whether a character may stand in a configuration text. -/
def isAllowed (c : Char) : Bool :=
  let n := c.toNat
  c == '\t' || c == '\n' || c == '\r' || (0x20 ≤ n && n ≤ 0x7E) || n == 0x85
    || (0xA0 ≤ n && n ≤ 0xFFFD) || 0x10000 ≤ n

/-- The text without a byte order mark at its start. -/
def dropByteOrderMark (c : Cursor) : Cursor :=
  if c.rest.head? == some '\uFEFF' then c.next else c

/-- The state before the first token of a text that may start with a byte order mark. -/
def Scanner.ofText (cs : List Char) : Scanner :=
  let s := Scanner.start cs
  { s with place := dropByteOrderMark s.place }

/-- The tokens of a text. Each takes at least one character, so the number of
    characters is fuel enough. -/
def scanTokens (cs : List Char) : Except Fault (List Token) :=
  if cs.all isAllowed then Scanner.run (cs.length + 1) (.ofText cs)
  else .error .malformed

end OpcodeForge.Yaml
