import OpcodeForge.Yaml.Tag
import OpcodeForge.Yaml.Token

/-!
# Nodes of a Configuration Text

The tokens of a document form a tree of scalars, sequences and mappings. A node
may have an anchor, and an alias stands for the node with its anchor, be it one
that contains the alias. The tree keeps anchors and aliases as they are.

Each anchor names one node only, and must come before its aliases. A text has one
document at most.

Every function that reads a node takes at least one token or calls one that does,
so a small multiple of the number of tokens is fuel enough.

## Main definitions

* `Yaml.Node`: A part of a document.
* `Yaml.Node.ofTokens?`: The document that tokens describe.
-/

namespace OpcodeForge.Yaml

/-- A part of a document. -/
inductive Node
  | scalar (tag : Tag) (text : List Char)
  | sequence (tag : Tag) (items : List Node)
  | mapping (tag : Tag) (entries : List (Node × Node))
  | alias (name : String)
  /-- A node with an anchor. -/
  | named (name : String) (node : Node)

/-- Nothing, where a node is left out. -/
def Node.empty : Node := .scalar .null []

/-- A node with its anchor, if there is one. -/
def Node.anchored (anchor : Option String) (n : Node) : Node :=
  match anchor with
  | none => n
  | some a => .named a n

/-- The state while nodes are read. -/
structure Reading where
  tokens : List Token
  /-- The names of the anchors so far. -/
  names : List String
  /-- What the handles of tags stand for. -/
  handles : List (String × String)

/-- The handles that every document knows. -/
def defaultHandles : List (String × String) := [("!", "!"), ("!!", tagAuthority)]

namespace Reading

/-- The state with other tokens. -/
def withTokens (r : Reading) (ts : List Token) : Reading :=
  { r with tokens := ts }

/-- The anchor and the tag before a node, and the tokens after them. -/
def properties : List Token →
    Option String × Option (Option String × String) × List Token
  | .anchor a :: .tag h s :: rest => (some a, some (h, s), rest)
  | .anchor a :: rest => (some a, none, rest)
  | .tag h s :: .anchor a :: rest => (some a, some (h, s), rest)
  | .tag h s :: rest => (none, some (h, s), rest)
  | rest => (none, none, rest)

/-- The full name of a tag. -/
def tagName (r : Reading) : Option String × String → Except Fault String
  | (none, suffix) => .ok suffix
  | (some handle, suffix) =>
    match r.handles.lookup handle with
    | some expansion => .ok (expansion ++ suffix)
    | none => .error .malformed

/-- Takes note of an anchor. It must be new. -/
def declare (r : Reading) : Option String → Except Fault Reading
  | none => .ok r
  | some a =>
    if r.names.contains a then .error .malformed
    else .ok { r with names := a :: r.names }

/-- The tag of a collection: the one that is given, or the usual one. -/
def collectionTag (usual : Tag) : Option String → Tag
  | none => usual
  | some name => if name == "!" then usual else .ofName name

/-- The tag of a scalar: the one that is given, or the one by its form if it is
    plain. The lone mark asks for the form. -/
def scalarTag (plain : Bool) (cs : List Char) : Option String → Tag
  | none => if plain then .ofPlain cs else .text
  | some name => if name == "!" then .ofPlain cs else .ofName name

/-- Whether an entry of a block sequence is left out before these tokens. -/
def endsEntry : List Token → Bool
  | .blockEntry :: _ => true
  | .blockEnd :: _ => true
  | _ => false

/-- Whether a part of a block mapping, or an entry of a sequence that is not
    indented, is left out before these tokens. -/
def endsPart : List Token → Bool
  | .key :: _ => true
  | .value :: _ => true
  | .blockEnd :: _ => true
  | _ => false

/-- Whether an item inside brackets is left out before these tokens. -/
def endsItem (close : Token) : List Token → Bool
  | .flowEntry :: _ => true
  | t :: _ => t == close
  | [] => false

/-- Whether a key inside brackets is left out before these tokens. -/
def endsFlowKey (close : Token) (ts : List Token) : Bool :=
  ts.head? == some .value || endsItem close ts

/-- A node of which there is only an anchor or a tag. -/
def emptyNode (anchor name : Option String) (r : Reading) :
    Except Fault (Node × Reading) :=
  if anchor.isSome || name.isSome then
    .ok ((Node.scalar (scalarTag true [] name) []).anchored anchor, r)
  else .error .malformed

/-- The tokens of the next item inside brackets, after the comma before it. -/
def afterComma (close : Token) (first : Bool) : List Token →
    Except Fault (List Token)
  | [] => .error .malformed
  | t :: rest =>
    if first || t == close then .ok (t :: rest)
    else if t == .flowEntry then .ok rest
    else .error .malformed

mutual

/-- Reads a node. `block` says whether it may be a block collection, `indentless`
    whether the dashes of its entries may stand at the column of the key. -/
def node (block indentless : Bool) : Nat → Reading → Except Fault (Node × Reading)
  | 0, _ => .error .malformed
  | fuel + 1, r =>
    match r.tokens with
    | .alias name :: rest =>
      if r.names.contains name then .ok (.alias name, r.withTokens rest)
      else .error .malformed
    | tokens => do
      let (anchor, given, rest) := properties tokens
      let name ← match given with
        | none => .ok none
        | some t => (r.tagName t).map some
      -- An anchor is known inside its own node, so it is declared before the contents
      -- are read.
      let r ← r.declare anchor
      match rest with
      | .scalar text plain :: rest =>
        let n := Node.scalar (scalarTag plain text name) text
        return (n.anchored anchor, r.withTokens rest)
      | .flowSequenceStart :: rest =>
        let (items, r) ← flowItems fuel true (r.withTokens rest)
        return ((Node.sequence (collectionTag .sequence name) items).anchored anchor, r)
      | .flowMappingStart :: rest =>
        let (entries, r) ← flowEntries fuel true (r.withTokens rest)
        return ((Node.mapping (collectionTag .mapping name) entries).anchored anchor, r)
      | .blockEntry :: _ =>
        if indentless then
          -- The dashes stand at the column of the key, so no token starts or ends the
          -- sequence.
          let (items, r) ← indentlessItems fuel (r.withTokens rest)
          return ((Node.sequence (collectionTag .sequence name) items).anchored anchor, r)
        else emptyNode anchor name (r.withTokens rest)
      | .blockSequenceStart :: rest' =>
        if block then
          let (items, r) ← blockItems fuel (r.withTokens rest')
          return ((Node.sequence (collectionTag .sequence name) items).anchored anchor, r)
        else emptyNode anchor name (r.withTokens rest)
      | .blockMappingStart :: rest' =>
        if block then
          let (entries, r) ← blockEntries fuel (r.withTokens rest')
          return ((Node.mapping (collectionTag .mapping name) entries).anchored anchor, r)
        else emptyNode anchor name (r.withTokens rest)
      | rest => emptyNode anchor name (r.withTokens rest)

/-- Reads the entries of a block sequence. -/
def blockItems : Nat → Reading → Except Fault (List Node × Reading)
  | 0, _ => .error .malformed
  | fuel + 1, r =>
    match r.tokens with
    | .blockEntry :: rest => do
      let (item, r) ←
        if endsEntry rest then .ok (Node.empty, r.withTokens rest)
        else node true false fuel (r.withTokens rest)
      let (items, r) ← blockItems fuel r
      return (item :: items, r)
    | .blockEnd :: rest => .ok ([], r.withTokens rest)
    | _ => .error .malformed

/-- Reads the entries of a sequence that is not indented. -/
def indentlessItems : Nat → Reading → Except Fault (List Node × Reading)
  | 0, _ => .error .malformed
  | fuel + 1, r =>
    match r.tokens with
    | .blockEntry :: rest => do
      let (item, r) ←
        if endsEntry rest || endsPart rest then .ok (Node.empty, r.withTokens rest)
        else node true false fuel (r.withTokens rest)
      let (items, r) ← indentlessItems fuel r
      return (item :: items, r)
    | _ => .ok ([], r)

/-- Reads the entries of a block mapping. -/
def blockEntries : Nat → Reading → Except Fault (List (Node × Node) × Reading)
  | 0, _ => .error .malformed
  | fuel + 1, r =>
    match r.tokens with
    | .key :: rest => do
      let (key, r) ←
        if endsPart rest then .ok (Node.empty, r.withTokens rest)
        else node true true fuel (r.withTokens rest)
      let (value, r) ← match r.tokens with
        | .value :: rest =>
          if endsPart rest then .ok (Node.empty, r.withTokens rest)
          else node true true fuel (r.withTokens rest)
        | _ => .ok (Node.empty, r)
      let (entries, r) ← blockEntries fuel r
      return ((key, value) :: entries, r)
    | .blockEnd :: rest => .ok ([], r.withTokens rest)
    | _ => .error .malformed

/-- Reads the value behind a key inside brackets. -/
def flowValue (close : Token) : Nat → Reading → Except Fault (Node × Reading)
  | 0, _ => .error .malformed
  | fuel + 1, r =>
    match r.tokens with
    | .value :: rest =>
      if endsItem close rest then .ok (Node.empty, r.withTokens rest)
      else node false false fuel (r.withTokens rest)
    | _ => .ok (Node.empty, r)

/-- Reads the items of a sequence in brackets. A key makes a mapping of its item. -/
def flowItems : Nat → Bool → Reading → Except Fault (List Node × Reading)
  | 0, _, _ => .error .malformed
  | fuel + 1, first, r => do
    let rest ← afterComma .flowSequenceEnd first r.tokens
    match rest with
    | .flowSequenceEnd :: rest => return ([], r.withTokens rest)
    | .key :: rest =>
      let (key, r) ←
        if endsFlowKey .flowSequenceEnd rest then .ok (Node.empty, r.withTokens rest)
        else node false false fuel (r.withTokens rest)
      let (value, r) ← flowValue .flowSequenceEnd fuel r
      let (items, r) ← flowItems fuel false r
      -- A pair inside brackets is a mapping with this one entry.
      return (.mapping .mapping [(key, value)] :: items, r)
    | rest =>
      let (item, r) ← node false false fuel (r.withTokens rest)
      let (items, r) ← flowItems fuel false r
      return (item :: items, r)

/-- Reads the entries of a mapping in braces. -/
def flowEntries : Nat → Bool → Reading → Except Fault (List (Node × Node) × Reading)
  | 0, _, _ => .error .malformed
  | fuel + 1, first, r => do
    let rest ← afterComma .flowMappingEnd first r.tokens
    match rest with
    | .flowMappingEnd :: rest => return ([], r.withTokens rest)
    | .key :: rest =>
      let (key, r) ←
        if endsFlowKey .flowMappingEnd rest then .ok (Node.empty, r.withTokens rest)
        else node false false fuel (r.withTokens rest)
      let (value, r) ← flowValue .flowMappingEnd fuel r
      let (entries, r) ← flowEntries fuel false r
      return ((key, value) :: entries, r)
    | rest =>
      let (key, r) ← node false false fuel (r.withTokens rest)
      let (entries, r) ← flowEntries fuel false r
      -- A key inside braces needs no colon.
      return ((key, .empty) :: entries, r)

end

/-- Reads the directives before a document. A version must be given once at most,
    and a handle too. -/
def directives : List Token → Bool → List (String × String) →
    Except Fault (List (String × String) × List Token)
  | .directive (.version major _) :: rest, versioned, handles =>
    if versioned || major ≠ 1 then .error .malformed
    else directives rest true handles
  | .directive (.tagHandle handle expansion) :: rest, versioned, handles =>
    if (handles.lookup handle).isSome then .error .malformed
    else directives rest versioned ((handle, expansion) :: handles)
  | .directive .unknown :: rest, versioned, handles =>
    directives rest versioned handles
  | rest, _, handles => .ok (handles ++ defaultHandles, rest)

end Reading

/-- Whether a document that was announced has no node before these tokens. -/
def endsDocument : List Token → Bool
  | [] => true
  | .directive _ :: _ => true
  | .documentStart :: _ => true
  | .documentEnd :: _ => true
  | _ => false

/-- Whether only the ends of documents are left. -/
def onlyEnds (ts : List Token) : Bool :=
  ts.all (· == .documentEnd)

/-- The document that tokens describe, if there is one. -/
def Node.ofTokens? (ts : List Token) : Except Fault (Option Node) := do
  let fuel := 4 * ts.length + 4
  let announced := match ts with
    | .directive _ :: _ => true
    | .documentStart :: _ => true
    | _ => false
  -- A text of blanks and comments has no document.
  if ts.isEmpty then return none
  else if announced then
    let (handles, rest) ← Reading.directives ts false []
    match rest with
    | .documentStart :: rest =>
      let r : Reading := ⟨rest, [], handles⟩
      let (root, r) ←
        if endsDocument rest then .ok (Node.empty, r)
        else Reading.node true false fuel r
      finish root r
    | _ => .error .malformed
  else
    let (root, r) ← Reading.node true false fuel ⟨ts, [], defaultHandles⟩
    finish root r
where
  /-- The document, if nothing but ends follows it. -/
  finish (root : Node) (r : Reading) : Except Fault (Option Node) :=
    if onlyEnds r.tokens then .ok (some root) else .error .malformed

end OpcodeForge.Yaml
