import OpcodeForge.Number.Decimal
import OpcodeForge.Text.Pieces
import OpcodeForge.Value.Basic
import OpcodeForge.Yaml.Graph
import Std.Data.HashMap

/-!
# Values of a Configuration Text

The value of a node by its tag. A scalar tag needs a text, and the text has to be
one for that tag; a collection tag needs a collection of the right form.

Keys of a mapping that merge others in are replaced by the entries of those
mappings, which come before its own; of equal keys, the first fixes the place and
the last the value.

Collections are filled level by level: the root, then the collections in it, then
those in them. Each is filled once, however often it is reached. The first fault on
the way is the one that counts. Merging changes the graph, so what is filled first
also decides what the others find.

A collection of values is a value itself as soon as it is filled. One that was filled
before its contents is read back in the end, and may contain itself.

## Main definitions

* `Yaml.scalarValue`: The value of a text under a tag.
* `Yaml.Building.visit`, `Yaml.Building.fill`: Looks at a node, and fills a collection.
* `Yaml.Building.valueOf`: The value of what was built.
* `Yaml.load`: The value of a text.
-/

namespace OpcodeForge.Yaml

/-- A fault in place of a missing number. -/
def numberOr {α : Type} (n : Option α) : Except Fault α :=
  match n with
  | some n => .ok n
  | none => .error .badNumber

/-- The integer that a text without underscores and sign denotes. -/
def unsignedInt (cs : List Char) : Except Fault Int :=
  match cs with
  | [] => .error .emptyNumber
  | '0' :: 'b' :: rest => numberOr (Number.integer? 2 rest)
  | '0' :: 'x' :: rest => numberOr (Number.integer? 16 rest)
  -- The zero that marks the base eight is one of its digits.
  | '0' :: _ => numberOr (Number.integer? 8 cs)
  | _ =>
    let parts := Text.pieces ':' cs
    if parts.length == 1 then numberOr (Number.integer? 10 cs)
    else numberOr ((parts.mapM (Number.integer? 10)).map fun ns =>
      ns.foldl (fun n d => n * 60 + d) 0)

/-- The integer that a text denotes. -/
def intOf (cs : List Char) : Except Fault Int :=
  -- Underscores may stand anywhere, and do not count.
  let cs := cs.filter (· ≠ '_')
  let (negative, body) := splitSign cs
  if cs.isEmpty then .error .emptyNumber
  else (unsignedInt body).map fun n => if negative then -n else n

/-- The sum of numbers to the base sixty, the last one first, from the value of
    those before and the weight of the next one on. -/
def sumSixties (sum : Number.Binary64) (weight : Nat) :
    List Number.Binary64 → Except Fault Number.Binary64
  | [] => .ok sum
  | x :: xs =>
    match Number.Binary64.ofNat weight with
    -- A weight that has no finite value cannot take part in the sum.
    | .infinite _ => .error .hugeNumber
    | w => sumSixties (sum.add (x.mul w)) (weight * 60) xs

/-- The floating point number that a text denotes. -/
def floatOf (cs : List Char) : Except Fault Number.Binary64 :=
  let cs := (cs.filter (· ≠ '_')).map Char.toLower
  let (negative, body) := splitSign cs
  let signed := fun x : Number.Binary64 => if negative then x.neg else x
  if cs.isEmpty then .error .emptyNumber
  else if body == ".inf".toList then .ok (.infinite negative)
  else if body == ".nan".toList then .ok .nan
  else
    let parts := Text.pieces ':' body
    if parts.length == 1 then (numberOr (Number.float? body)).map signed
    else do
      let xs ← numberOr (parts.mapM Number.float?)
      return signed (← sumSixties (.zero false) 1 xs.reverse)

/-- The truth value that a word names, in any case. -/
def boolOf (cs : List Char) : Except Fault Bool :=
  let word := String.ofList (cs.map Char.toLower)
  if ["yes", "true", "on"].contains word then .ok true
  else if ["no", "false", "off"].contains word then .ok false
  else .error .unknownTruth

/-- The value of a character of base sixty-four text. -/
def sextet? (c : Char) : Option Nat :=
  if 'A' ≤ c && c ≤ 'Z' then some (c.toNat - 65)
  else if 'a' ≤ c && c ≤ 'z' then some (c.toNat - 71)
  else if c.isDigit then some (c.toNat + 4)
  else if c == '+' then some 62
  else if c == '/' then some 63
  else none

/-- Decodes base sixty-four text. Up to three characters of a group have been read,
    whose bits that make no byte yet are `bits`; `pads` counts the padding in a
    row. Characters that do not belong to such text are skipped. -/
def decodeSextets (count bits pads : Nat) : List Char → Option (List UInt8)
  | [] => if count == 0 then some [] else none
  | c :: rest =>
    if c == '=' then
      -- A full group ends the text, whatever follows it.
      if 2 ≤ count && 3 ≤ count + pads then some []
      else decodeSextets count bits (if 2 ≤ count then pads + 1 else pads) rest
    else match sextet? c with
      | none => decodeSextets count bits pads rest
      | some n =>
        let all := bits * 64 + n
        let emit := fun (unit next : Nat) =>
          (decodeSextets next (all % unit) 0 rest).map
            ((all / unit).toUInt8 :: ·)
        if count == 0 then decodeSextets 1 n 0 rest
        else if count == 1 then emit 16 2
        else if count == 2 then emit 4 3
        else emit 1 0

/-- The bytes that a text denotes. -/
def bytesOf (cs : List Char) : Except Fault (List UInt8) :=
  if cs.any fun c => 127 < c.toNat then .error .malformed
  else match decodeSextets 0 0 0 cs with
    | some bytes => .ok bytes
    | none => .error .malformed

/-- The millionths that the digits of a fraction denote. -/
def millionths (ds : List Char) : Nat :=
  Text.asciiNumber (ds.take 6 ++ List.replicate (6 - ds.length) '0')

/-- The minutes of an offset as it is written. -/
def offsetMinutes : Option (Option Char × List Char × List Char) → Option Int
  | none => none
  | some (sign, hours, minutes) =>
    let n : Int := Text.asciiNumber hours * 60 + Text.asciiNumber minutes
    some (if sign == some '-' then -n else n)

/-- The date that a text denotes. -/
def dateOf (cs : List Char) : Except Fault Value :=
  match Timestamp.ofText? cs with
  | none => .error .noDate
  | some t =>
    let date : Date :=
      ⟨Text.asciiNumber t.year, Text.asciiNumber t.month, Text.asciiNumber t.day⟩
    match t.time with
    | none => if date.isValid then .ok (.date date) else .error .badDate
    | some (hour, minute, second, fraction) =>
      let moment : Moment :=
        ⟨date, Text.asciiNumber hour, Text.asciiNumber minute, Text.asciiNumber second,
          millionths fraction, offsetMinutes t.offset⟩
      if moment.isValid then .ok (.moment moment) else .error .badDate

/-- The value of a text under a tag. -/
def scalarValue (tag : Tag) (cs : List Char) : Except Fault Value :=
  match tag with
  | .null => .ok .null
  | .bool => (boolOf cs).map .bool
  | .int => (intOf cs).map .int
  | .float => (floatOf cs).map .float
  | .binary => (bytesOf cs).map .bytes
  | .timestamp => dateOf cs
  | .text => .ok (.text (String.ofList cs))
  | _ => .error .malformed

/-- Whether a tag is one for texts. -/
def Tag.isScalar : Tag → Bool
  | .null => true
  | .bool => true
  | .int => true
  | .float => true
  | .binary => true
  | .timestamp => true
  | .text => true
  | _ => false

/-- Whether a tag is one for collections. -/
def Tag.isCollection : Tag → Bool
  | .orderedMap => true
  | .pairs => true
  | .set => true
  | .sequence => true
  | .mapping => true
  | _ => false

/-- Puts an entry into a mapping. A key that is there already keeps its place. -/
def insertEntry {α : Type} (entries : List (Value × α)) (key : Value) (value : α) :
    List (Value × α) :=
  match entries with
  | [] => [(key, value)]
  | (k, v) :: rest =>
    if k.sameKey key then (k, value) :: rest
    else (k, v) :: insertEntry rest key value

/-- What is in a collection: a value, or another collection by its place. -/
inductive Part
  | value (v : Value)
  | collection (k : Nat)

/-- The value of a part, if it is one. -/
def Part.value? : Part → Option Value
  | .value v => some v
  | .collection _ => none

/-- What has been made of a vertex. -/
inductive Content
  /-- A collection that will be filled. -/
  | waiting
  | value (v : Value)
  | list (items : List Part)
  | pairs (entries : List (Part × Part))
  | map (entries : List (Value × Part))

namespace Content

/-- A list, which is a value if its items are. -/
def ofItems (items : List Part) : Content :=
  match items.mapM Part.value? with
  | some vs => .value (.list vs)
  | none => .list items

/-- A list of pairs, which is a value if its parts are. -/
def ofPairs (entries : List (Part × Part)) : Content :=
  match entries.mapM fun e => return (← e.1.value?, ← e.2.value?) with
  | some vs => .value (.pairs vs)
  | none => .pairs entries

/-- A mapping, which is a value if its entries are. -/
def ofEntries (entries : List (Value × Part)) : Content :=
  match entries.mapM fun e => e.2.value?.map fun v => (e.1, v) with
  | some vs => .value (.map vs)
  | none => .map entries

/-- Whether a collection is a mapping. -/
def isMap : Content → Bool
  | .map _ => true
  | _ => false

end Content

/-- The state while a value is built. -/
structure Building where
  graph : Graph
  contents : Std.HashMap Nat Content
  /-- The collections of the next level, backwards. -/
  next : List Nat

namespace Building

/-- The state with contents of a vertex. -/
def put (b : Building) (k : Nat) (c : Content) : Building :=
  { b with contents := b.contents.insert k c }

/-- The value of a collection that stands for a text. -/
def standIn (g : Graph) (k : Nat) : Except Fault Value :=
  match g.scalarText? (g.vertices.size + 1) k with
  | none => .error .malformed
  | some cs =>
    match g.vertex k with
    | .mapping .timestamp _ => .error .mappedDate
    | v => scalarValue v.tag cs

/-- Looks at a vertex that is no scalar, or should be none. A collection is made only once. -/
def enter (b : Building) (k : Nat) : Except Fault (Part × Building) :=
  match b.contents[k]? with
  | some (.value v) => .ok (.value v, b)
  | some _ => .ok (.collection k, b)
  | none =>
    if (b.graph.tag k).isCollection then
      .ok (.collection k, { b.put k .waiting with next := k :: b.next })
    else do
      let v ← standIn b.graph k
      return (.value v, b.put k (.value v))

/-- Looks at a vertex. -/
def visit (b : Building) (k : Nat) : Except Fault (Part × Building) :=
  match b.graph.vertex k with
  | .scalar tag cs =>
    if tag.isCollection then b.enter k
    else (scalarValue tag cs).map fun v => (.value v, b)
  | _ => b.enter k

/-- Looks at the items of a sequence. -/
def visitItems (b : Building) : List Nat → Except Fault (List Part × Building)
  | [] => .ok ([], b)
  | k :: ks => do
    let (part, b) ← b.visit k
    let (parts, b) ← b.visitItems ks
    return (part :: parts, b)

/-- Looks at the items of a list of pairs, each of which is a mapping with one entry. -/
def visitPairs (b : Building) : List Nat → Except Fault (List (Part × Part) × Building)
  | [] => .ok ([], b)
  | k :: ks =>
    match b.graph.vertex k with
    | .mapping _ [(key, value)] => do
      let (first, b) ← b.visit key
      let (second, b) ← b.visit value
      let (entries, b) ← b.visitPairs ks
      return ((first, second) :: entries, b)
    | _ => .error .malformed

/-- Looks at the entries of a mapping, and puts them to those before. A key must be a value that
    can be looked up again. -/
def visitEntries (b : Building) (entries : List (Value × Part)) :
    List (Nat × Nat) → Except Fault (List (Value × Part) × Building)
  | [] => .ok (entries, b)
  | (key, value) :: rest => do
    let (first, b) ← b.visit key
    match first with
    | .collection _ => .error .malformed
    | .value v =>
      if !v.isKey then .error .malformed
      else
        let (second, b) ← b.visit value
        -- Merged entries come first, so an entry of the mapping's own has the last word.
        b.visitEntries (insertEntry entries v second) rest

/-- The entries of a mapping, after all that it asks for has been merged in. -/
def mapEntries (b : Building) (k : Nat) : Except Fault (List (Value × Part) × Building) :=
  match b.graph.vertex k with
  | .mapping _ _ => do
    let g ← b.graph.flatten (b.graph.merges + 1) k
    { b with graph := g }.visitEntries [] (g.entries k)
  | _ => .error .malformed

/-- Fills a collection. -/
def fill (b : Building) (k : Nat) : Except Fault Building := do
  match b.graph.tag k, b.graph.vertex k with
  | .sequence, .sequence _ items =>
    let (parts, b) ← b.visitItems items
    return b.put k (.ofItems parts)
  | .orderedMap, .sequence _ items =>
    let (entries, b) ← b.visitPairs items
    return b.put k (.ofPairs entries)
  | .pairs, .sequence _ items =>
    let (entries, b) ← b.visitPairs items
    return b.put k (.ofPairs entries)
  | .mapping, _ =>
    let (entries, b) ← b.mapEntries k
    return b.put k (.ofEntries entries)
  | .set, _ =>
    let (entries, b) ← b.mapEntries k
    return b.put k (.value (.set (entries.map (·.1))))
  | _, _ => .error .malformed

/-- Fills the collections level by level. Each level has another collection, so the number of
    vertices is fuel enough. -/
def fillAll : Nat → Building → Except Fault Building
  | 0, b => .ok b
  | fuel + 1, b =>
    if b.next.isEmpty then .ok b
    else do
      let b ← b.next.reverse.foldlM fill { b with next := [] }
      fillAll fuel b

/-- The value of a part. `inside` has the collections that it lies in, the innermost one first,
    apart from the outermost `above`: a collection does not count as coming back while it is only
    looked into. -/
def valueOf (b : Building) : Nat → Nat → List Nat → Part → Value
  | _, _, _, .value v => v
  | 0, _, _, .collection _ => .null
  | fuel + 1, above, inside, .collection k =>
    let content := b.contents[k]?.getD .waiting
    match inside.idxOf? k with
    | some up => .again content.isMap up
    | none =>
      let under := b.valueOf fuel (above - 1) (if above = 0 then k :: inside else [])
      match content with
      | .waiting => .null
      | .value v => v
      | .list items => .list (items.map under)
      | .pairs entries => .pairs (entries.map fun e => (under e.1, under e.2))
      | .map entries => .map (entries.map fun e => (e.1, under e.2))

end Building

/-- How far a value is looked into: settings are entries of a mapping in a mapping, and those of a
    row are entries of a mapping in a list. What lies deeper is only shown. -/
def lookedInto : Nat := 2

/-- The value of a document. -/
def Node.value (n : Node) : Except Fault Value := do
  let g := n.graph
  let (root, b) ← Building.visit ⟨g, ∅, []⟩ (n.place [] 0)
  let b ← b.fillAll (g.vertices.size + 1)
  return b.valueOf (g.vertices.size + lookedInto + 1) lookedInto [] root

/-- The document of a text, if there is one. -/
def document? (cs : List Char) : Except Fault (Option Node) := do
  Node.ofTokens? (← scanTokens cs)

/-- The value of a text, which is nothing if the text has no document. -/
def load (cs : List Char) : Except Fault Value := do
  match ← document? cs with
  | none => return .null
  | some n => n.value

end OpcodeForge.Yaml
