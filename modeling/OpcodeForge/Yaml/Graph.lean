import OpcodeForge.Yaml.Node

/-!
# The Graph of a Document

An alias stands for the very node that has the anchor, so a document is a graph in
which a node can be reached in several ways, and from inside itself. The vertices
are the nodes of the tree in the order in which they start; an alias has none of
its own.

A key of a mapping may ask for the entries of other mappings. These are put before
the entries of the mapping itself (`Yaml.Graph.flatten`), and from then on it is a
mapping like all others. Mappings that are merged are flattened first. One that is
being flattened already is entered once more, with the keys that are left, so each
of these keys is followed once.

## Main definitions

* `Yaml.Vertex`: A node of the graph.
* `Yaml.Node.graph`: The graph of a document.
* `Yaml.Graph.flatten`: The graph with all that a mapping asks for put into it.
* `Yaml.Graph.scalarText?`: The text that a vertex has, or stands for.
-/

namespace OpcodeForge.Yaml

/-- A node of a graph. Collections have the places of their contents. -/
inductive Vertex
  | scalar (tag : Tag) (text : List Char)
  | sequence (tag : Tag) (items : List Nat)
  | mapping (tag : Tag) (entries : List (Nat × Nat))

/-- The tag of a vertex. -/
def Vertex.tag : Vertex → Tag
  | .scalar tag _ => tag
  | .sequence tag _ => tag
  | .mapping tag _ => tag

/-- A vertex with another tag. -/
def Vertex.withTag (tag : Tag) : Vertex → Vertex
  | .scalar _ cs => .scalar tag cs
  | .sequence _ items => .sequence tag items
  | .mapping _ entries => .mapping tag entries

/-- The nodes of a document by their places. -/
structure Graph where
  vertices : Array Vertex

mutual

/-- The number of vertices of a tree. -/
def Node.size : Node → Nat
  | .scalar _ _ => 1
  | .sequence _ items => 1 + itemsSize items
  | .mapping _ entries => 1 + entriesSize entries
  | .alias _ => 0
  | .named _ n => n.size

/-- The number of vertices of several trees. -/
def itemsSize : List Node → Nat
  | [] => 0
  | n :: ns => n.size + itemsSize ns

/-- The number of vertices of the entries of a mapping. -/
def entriesSize : List (Node × Node) → Nat
  | [] => 0
  | (key, value) :: rest => key.size + value.size + entriesSize rest

end

mutual

/-- The anchors in a tree, with the places of their nodes. The tree starts at `k`. -/
def Node.anchors (k : Nat) : Node → List (String × Nat)
  | .scalar _ _ => []
  | .sequence _ items => itemsAnchors (k + 1) items
  | .mapping _ entries => entriesAnchors (k + 1) entries
  | .alias _ => []
  | .named a n => (a, k) :: n.anchors k

/-- The anchors in several trees. -/
def itemsAnchors (k : Nat) : List Node → List (String × Nat)
  | [] => []
  | n :: ns => n.anchors k ++ itemsAnchors (k + n.size) ns

/-- The anchors in the entries of a mapping. -/
def entriesAnchors (k : Nat) : List (Node × Node) → List (String × Nat)
  | [] => []
  | (key, value) :: rest =>
    key.anchors k ++ value.anchors (k + key.size)
      ++ entriesAnchors (k + key.size + value.size) rest

end

section

variable (anchors : List (String × Nat))

/-- The place of a tree that starts at `k`. That of an alias is elsewhere. -/
def Node.place (k : Nat) : Node → Nat
  | .alias name => (anchors.lookup name).getD 0
  | _ => k

/-- The places of several trees. -/
def itemPlaces (k : Nat) : List Node → List Nat
  | [] => []
  | n :: ns => n.place anchors k :: itemPlaces (k + n.size) ns

/-- The places of the entries of a mapping. -/
def entryPlaces (k : Nat) : List (Node × Node) → List (Nat × Nat)
  | [] => []
  | (key, value) :: rest =>
    (key.place anchors k, value.place anchors (k + key.size))
      :: entryPlaces (k + key.size + value.size) rest

mutual

/-- The vertices of a tree that starts at `k`. -/
def Node.vertices (k : Nat) : Node → List Vertex
  | .scalar tag cs => [.scalar tag cs]
  | .sequence tag items =>
    .sequence tag (itemPlaces anchors (k + 1) items) :: itemsVertices (k + 1) items
  | .mapping tag entries =>
    .mapping tag (entryPlaces anchors (k + 1) entries) :: entriesVertices (k + 1) entries
  | .alias _ => []
  | .named _ n => n.vertices k

/-- The vertices of several trees. -/
def itemsVertices (k : Nat) : List Node → List Vertex
  | [] => []
  | n :: ns => n.vertices k ++ itemsVertices (k + n.size) ns

/-- The vertices of the entries of a mapping. -/
def entriesVertices (k : Nat) : List (Node × Node) → List Vertex
  | [] => []
  | (key, value) :: rest =>
    key.vertices k ++ value.vertices (k + key.size)
      ++ entriesVertices (k + key.size + value.size) rest

end

end

/-- The graph of a document. Its root has the first place. -/
def Node.graph (n : Node) : Graph :=
  ⟨(n.vertices (n.anchors 0) 0).toArray⟩

namespace Graph

/-- The vertex at a place. -/
def vertex (g : Graph) (k : Nat) : Vertex :=
  g.vertices[k]?.getD (.scalar .null [])

/-- The tag of the vertex at a place. -/
def tag (g : Graph) (k : Nat) : Tag :=
  (g.vertex k).tag

/-- The entries of a mapping. -/
def entries (g : Graph) (k : Nat) : List (Nat × Nat) :=
  match g.vertex k with
  | .mapping _ es => es
  | _ => []

/-- The graph with another vertex at a place. -/
def put (g : Graph) (k : Nat) (v : Vertex) : Graph :=
  ⟨g.vertices.setIfInBounds k v⟩

/-- The graph with other entries of a mapping. -/
def withEntries (g : Graph) (k : Nat) (es : List (Nat × Nat)) : Graph :=
  g.put k (.mapping (g.tag k) es)

/-- Whether the key of an entry asks for other entries. -/
def isMerge (g : Graph) (e : Nat × Nat) : Bool :=
  g.tag e.1 == .merge

/-- The number of keys that ask for other entries. -/
def merges (g : Graph) : Nat :=
  g.vertices.foldl (fun n v => match v with
    | .mapping _ es => n + es.countP g.isMerge
    | _ => n) 0

/-- The entries of the mapping, or of the mappings in the sequence, at a place. Each mapping is
    made flat before. -/
def targets (flat : Graph → Nat → Except Fault Graph) (g : Graph) (k : Nat) :
    Except Fault (Graph × List (Nat × Nat)) :=
  match g.vertex k with
  | .mapping _ _ => do
    let g ← flat g k
    return (g, g.entries k)
  | .sequence _ items => do
    let step := fun (state : Graph × List (List (Nat × Nat))) (i : Nat) =>
      match state.1.vertex i with
      | .mapping _ _ => do
        let g ← flat state.1 i
        return (g, g.entries i :: state.2)
      | _ => .error .malformed
    let (g, parts) ← items.foldlM step (g, [])
    -- The mappings named first count most, so they are put in last.
    return (g, parts.flatten)
  | .scalar _ _ => .error .malformed

/-- Looks at the key of an entry of the mapping at `k`. `merged` has the entries that it has asked
    for before. A key that stands for the mapping is a text from then on. -/
def flattenEntry (flat : Graph → Nat → Except Fault Graph) (k : Nat)
    (state : Graph × List (Nat × Nat)) (e : Nat × Nat) :
    Except Fault (Graph × List (Nat × Nat)) :=
  let (g, merged) := state
  -- A key that asks is gone if the mapping has been entered once more in the meantime.
  if g.isMerge e && (g.entries k).any g.isMerge then do
    let g := g.withEntries k ((g.entries k).eraseP g.isMerge)
    let (g, more) ← targets flat g e.2
    return (g, merged ++ more)
  else if g.tag e.1 == .default then
    .ok (g.put e.1 ((g.vertex e.1).withTag .text), merged)
  else .ok (g, merged)

/-- Puts all that a mapping asks for before its own entries. Inside of each other, mappings use up
    the keys that ask, so the number of these is fuel enough. -/
def flatten : Nat → Graph → Nat → Except Fault Graph
  | 0, g, _ => .ok g
  | fuel + 1, g, k => do
    let (g, merged) ← (g.entries k).foldlM (flattenEntry (flatten fuel) k) (g, [])
    return if merged.isEmpty then g else g.withEntries k (merged ++ g.entries k)

/-- The text of a vertex: a scalar's own, or that of the entry which stands for a mapping. A
    chain of such entries that does not end is longer than the number of vertices. -/
def scalarText? (g : Graph) : Nat → Nat → Option (List Char)
  | 0, _ => none
  | fuel + 1, k =>
    match g.vertex k with
    | .scalar _ cs => some cs
    | .mapping _ es =>
      (es.find? fun e => g.tag e.1 == .default).bind fun e => g.scalarText? fuel e.2
    | .sequence _ _ => none

end Graph

end OpcodeForge.Yaml
