import Mathlib.Data.List.Forall2
import OpcodeForge.Proofs.Yaml.Scanning
import OpcodeForge.Yaml.Construct

/-!
# The Value of a List of One-Line Mappings

The tokens of such a list make a sequence of mappings, and the value of a mapping has an entry for
each field. Nothing else comes in: there are no anchors and no tags, the keys are texts by their
form, so none of them merges anything in, and no key comes twice, so no entry takes the place of
another one.

The graph has no vertex in two places. The list is filled first, while its items wait, and then
each item once.

## Main definitions

* `Item.node`: The node of an item.
* `Cell.Denotes`: A value is written by a scalar.
* `Item.Keyed`: The keys of a mapping are texts, and there are no two the same.
* `Item.IsAt`: A vertex of a graph is the mapping of an item.

## Theorems

* `Reading.node_item`, `Reading.blockItems_items`: The nodes are read from the tokens.
* `ofTokens?_listing`: The document of a list.
* `graph_listing`: The graph of the document.
* `Building.fill_item`, `Building.foldlM_fill_items`: An item becomes its value, and all of them do.
* `Building.fillAll_listing`: The list and its items after both levels.
* `load_listing`: The value of a list.
-/

namespace OpcodeForge.Yaml

/-- The node of a value. In quotes it is a text, and else its form decides. -/
def Cell.node (w : Cell) : Node :=
  .scalar (Reading.scalarTag (!w.quoted) w.chars none) w.chars

/-- The nodes of a field. -/
def Field.node (f : Field) : Node × Node :=
  (.scalar (.ofPlain f.key) f.key, f.cell.node)

/-- The node of an item. -/
def Item.node (i : Item) : Node :=
  .mapping .mapping (i.fields.map Field.node)

theorem Item.length_tokens (i : Item) : i.more.length + 7 ≤ i.tokens.length := by
  have hmore : ∀ fs : List Field, fs.length ≤ (moreTokens fs).length := by
    intro fs
    induction fs with
    | nil => exact Nat.le_refl 0
    | cons f fs ih =>
        unfold moreTokens at ih ⊢
        rw [List.flatMap_cons, List.length_append, List.length_cons, List.length_cons]
        omega
  unfold Item.tokens
  rw [List.length_cons, List.length_cons, List.length_append, List.length_append]
  have hfields := hmore i.more
  have hfour : i.first.tokens.length = 4 := rfl
  have hone : [Token.flowMappingEnd].length = 1 := rfl
  omega

namespace Reading

theorem withTokens_withTokens (r : Reading) (ts us : List Token) :
    (r.withTokens ts).withTokens us = r.withTokens us := rfl

theorem flowEntries_field (first : Bool) (fuel : Nat) (r : Reading) (f : Field)
    (rest : List Token)
    (h : afterComma .flowMappingEnd first r.tokens = .ok (f.tokens ++ rest)) :
    flowEntries (fuel + 3) first r = (do
      let (entries, r) ← flowEntries (fuel + 2) false (r.withTokens rest)
      return (f.node :: entries, r)) := by
  rw [flowEntries, h]
  simp only [Field.tokens, List.cons_append, List.nil_append, Cell.token]
  rfl

theorem flowEntries_end (first : Bool) (fuel : Nat) (r : Reading) (rest : List Token)
    (h : r.tokens = .flowMappingEnd :: rest) :
    flowEntries (fuel + 1) first r = .ok ([], r.withTokens rest) := by
  have hcomma : afterComma .flowMappingEnd first r.tokens = .ok (.flowMappingEnd :: rest) := by
    rw [h, afterComma, if_pos (by rw [BEq.rfl, Bool.or_true])]
  rw [flowEntries, hcomma]
  rfl

/-- The fields after the first one. -/
theorem flowEntries_more (fs : List Field) (rest : List Token) : ∀ (fuel : Nat) (r : Reading),
    fs.length + 2 ≤ fuel → r.tokens = moreTokens fs ++ .flowMappingEnd :: rest →
      flowEntries (fuel + 1) false r = .ok (fs.map Field.node, r.withTokens rest) := by
  induction fs with
  | nil => exact fun fuel r _ h => flowEntries_end false fuel r rest h
  | cons f fs ih =>
      intro fuel r hfuel h
      rcases Nat.exists_eq_add_of_le' hfuel with ⟨n, rfl⟩
      have hcomma : afterComma .flowMappingEnd false r.tokens =
          .ok (f.tokens ++ (moreTokens fs ++ .flowMappingEnd :: rest)) := by
        rw [h]
        unfold moreTokens
        rw [List.flatMap_cons, List.cons_append, List.cons_append, List.append_assoc]
        rfl
      have hmore := ih (n + fs.length + 2) (r.withTokens (moreTokens fs ++ .flowMappingEnd :: rest))
        (by omega) rfl
      have hfield := flowEntries_field false (n + fs.length + 1) r f _ hcomma
      rw [hmore] at hfield
      exact hfield

/-- A mapping in braces. -/
theorem node_item (i : Item) (rest : List Token) (fuel : Nat) (hfuel : i.more.length + 4 ≤ fuel)
    (r : Reading) (h : r.tokens = .flowMappingStart ::
      (i.first.tokens ++ (moreTokens i.more ++ .flowMappingEnd :: rest))) :
    node true false (fuel + 1) r = .ok (i.node, r.withTokens rest) := by
  rcases Nat.exists_eq_add_of_le' hfuel with ⟨n, rfl⟩
  have hmore := flowEntries_more i.more rest (n + i.more.length + 2)
    (r.withTokens (moreTokens i.more ++ .flowMappingEnd :: rest)) (by omega) rfl
  have hfields : flowEntries (n + (i.more.length + 4)) true (r.withTokens (i.first.tokens ++
      (moreTokens i.more ++ .flowMappingEnd :: rest))) =
        .ok (i.fields.map Field.node, r.withTokens rest) := by
    refine (flowEntries_field true (n + i.more.length + 1) _ i.first _ rfl).trans ?_
    rw [withTokens_withTokens, hmore]
    rfl
  unfold node
  rw [h]
  simp only [properties, declare, bind, Except.bind, pure, Except.pure, hfields]
  rfl

/-- The items of a list, up to the end of its block. -/
theorem blockItems_items (items : List Item) (rest : List Token) :
    ∀ (fuel : Nat) (r : Reading), (items.flatMap Item.tokens).length + 1 ≤ fuel →
      r.tokens = items.flatMap Item.tokens ++ .blockEnd :: rest →
        blockItems fuel r = .ok (items.map Item.node, r.withTokens rest) := by
  induction items with
  | nil =>
      intro fuel r hfuel h
      rcases Nat.exists_eq_add_of_le' (show 1 ≤ fuel by omega) with ⟨n, rfl⟩
      rw [List.flatMap_nil, List.nil_append] at h
      rw [blockItems, h]
      rfl
  | cons i items ih =>
      intro fuel r hfuel h
      rw [List.flatMap_cons, List.length_append] at hfuel
      have hlen := i.length_tokens
      rcases Nat.exists_eq_add_of_le' (show 2 ≤ fuel by omega) with ⟨n, rfl⟩
      have htokens : r.tokens = .blockEntry :: .flowMappingStart :: (i.first.tokens ++
          (moreTokens i.more ++ .flowMappingEnd :: (items.flatMap Item.tokens ++
            .blockEnd :: rest))) := by
        rw [h, List.flatMap_cons]
        unfold Item.tokens
        simp only [List.cons_append, List.append_assoc, List.nil_append]
      have hitem := node_item i (items.flatMap Item.tokens ++ .blockEnd :: rest) n (by omega)
        (r.withTokens _) rfl
      have hmore := ih (n + 1) (r.withTokens (items.flatMap Item.tokens ++ .blockEnd :: rest))
        (by omega) rfl
      rw [blockItems, htokens]
      simp only [endsEntry, Bool.false_eq_true, if_false, bind, Except.bind, pure, Except.pure,
        hitem, withTokens_withTokens, hmore, List.map_cons]

/-- A whole list. -/
theorem node_listing (items : List Item) (fuel : Nat)
    (hfuel : (items.flatMap Item.tokens).length + 1 ≤ fuel) (r : Reading)
    (h : r.tokens = listingTokens items) : node true false (fuel + 1) r =
      .ok (.sequence .sequence (items.map Item.node), r.withTokens []) := by
  have hitems := blockItems_items items [] fuel
    (r.withTokens (items.flatMap Item.tokens ++ [.blockEnd])) hfuel rfl
  unfold node
  rw [h]
  simp only [listingTokens, properties, declare, bind, Except.bind, pure, Except.pure, if_true,
    hitems]
  rfl

end Reading

/-- The document of a list. -/
theorem ofTokens?_listing (items : List Item) : Node.ofTokens? (listingTokens items) =
    .ok (some (.sequence .sequence (items.map Item.node))) := by
  have hlen : (listingTokens items).length = (items.flatMap Item.tokens).length + 2 := by
    unfold listingTokens
    rw [List.length_cons, List.length_append, List.length_singleton]
  have hnode := Reading.node_listing items (4 * (listingTokens items).length + 3) (by omega)
    ⟨listingTokens items, [], defaultHandles⟩ rfl
  change (Reading.node true false (4 * (listingTokens items).length + 4)
      ⟨listingTokens items, [], defaultHandles⟩ >>= fun read =>
    Node.ofTokens?.finish read.1 read.2) = _
  rw [hnode]
  rfl

/-- A value is written by a scalar. -/
def Cell.Denotes (w : Cell) (v : Value) : Prop :=
  scalarValue (Reading.scalarTag (!w.quoted) w.chars none) w.chars = .ok v

/-- The value that is written by a scalar, if there is one. -/
def Cell.value (w : Cell) : Value :=
  match scalarValue (Reading.scalarTag (!w.quoted) w.chars none) w.chars with
  | .ok v => v
  | .error _ => .null

theorem Cell.Denotes.value_eq {w : Cell} {v : Value} (h : w.Denotes v) : w.value = v := by
  unfold Cell.value
  rw [show scalarValue _ _ = _ from h]

/-- The keys of a mapping are texts by their form, and there are no two the same. -/
structure Item.Keyed (i : Item) : Prop where
  text : ∀ f ∈ i.fields, Tag.ofPlain f.key = .text
  distinct : (i.fields.map Field.key).Nodup

/-- The entry that a field makes. -/
def Field.entry (f : Field) : Value × Value :=
  (.text (String.ofList f.key), f.cell.value)

/-- The value of an item. -/
def Item.value (i : Item) : Value :=
  .map (i.fields.map Field.entry)

/-! ### The places of the items -/

/-- An entry of a mapping in a graph has the scalars of a field. -/
def Field.IsAt (g : Graph) (f : Field) (e : Nat × Nat) : Prop :=
  g.vertex e.1 = .scalar (.ofPlain f.key) f.key ∧
    g.vertex e.2 = .scalar (Reading.scalarTag (!f.cell.quoted) f.cell.chars none) f.cell.chars

/-- A vertex of a graph is the mapping of an item. -/
def Item.IsAt (g : Graph) (i : Item) (k : Nat) : Prop :=
  ∃ es, g.vertex k = .mapping .mapping es ∧ List.Forall₂ (Field.IsAt g) i.fields es

section Places

variable {g : Graph} {k : Nat} {vs : List Vertex}

/-- The first of the vertices from a place on is at this place. -/
theorem vertex_of_prefix {v : Vertex} (h : v :: vs <+: g.vertices.toList.drop k) :
    g.vertex k = v ∧ vs <+: g.vertices.toList.drop (k + 1) := by
  rcases h with ⟨after, h⟩
  have hat : g.vertices[k]? = some v := by
    rw [← Array.getElem?_toList, ← Nat.add_zero k, ← List.getElem?_drop, ← h]
    rfl
  constructor
  · unfold Graph.vertex
    rw [hat, Option.getD_some]
  · rw [← List.tail_drop, ← h]
    exact ⟨after, rfl⟩

/-- Of vertices in two parts, the second part is behind the first. -/
theorem vertices_append {ws : List Vertex} (h : vs ++ ws <+: g.vertices.toList.drop k) :
    vs <+: g.vertices.toList.drop k ∧ ws <+: g.vertices.toList.drop (k + vs.length) := by
  rcases h with ⟨after, h⟩
  rw [List.append_assoc] at h
  constructor
  · exact ⟨ws ++ after, h⟩
  · rw [← List.drop_drop, ← h, List.drop_left]
    exact ⟨after, rfl⟩

mutual

theorem Node.length_vertices (anchors : List (String × Nat)) (k : Nat) (n : Node) :
    (n.vertices anchors k).length = n.size := by
  match n with
  | .scalar _ _ => rfl
  | .sequence _ items =>
      rw [Node.vertices, Node.size, List.length_cons, length_itemsVertices, Nat.add_comm]
  | .mapping _ entries =>
      rw [Node.vertices, Node.size, List.length_cons, length_entriesVertices, Nat.add_comm]
  | .alias _ => rfl
  | .named _ n => rw [Node.vertices, Node.size, Node.length_vertices]

theorem length_itemsVertices (anchors : List (String × Nat)) (k : Nat) (ns : List Node) :
    (itemsVertices anchors k ns).length = itemsSize ns := by
  match ns with
  | [] => rfl
  | n :: ns =>
      rw [itemsVertices, itemsSize, List.length_append, Node.length_vertices,
        length_itemsVertices]

theorem length_entriesVertices (anchors : List (String × Nat)) (k : Nat)
    (es : List (Node × Node)) :
    (entriesVertices anchors k es).length = entriesSize es := by
  match es with
  | [] => rfl
  | (key, value) :: es =>
      rw [entriesVertices, entriesSize, List.length_append, List.length_append,
        Node.length_vertices, Node.length_vertices, length_entriesVertices]

end

theorem Node.size_graph (n : Node) : n.graph.vertices.size = n.size :=
  n.length_vertices (n.anchors 0) 0

theorem entries_isAt (anchors : List (String × Nat)) (fs : List Field) : ∀ k : Nat,
    entriesVertices anchors k (fs.map Field.node) <+: g.vertices.toList.drop k →
      List.Forall₂ (Field.IsAt g) fs (entryPlaces anchors k (fs.map Field.node)) := by
  induction fs with
  | nil => exact fun _ _ => .nil
  | cons f fs ih =>
      intro k h
      rcases vertex_of_prefix h with ⟨hkey, h⟩
      rcases vertex_of_prefix h with ⟨hvalue, h⟩
      exact .cons ⟨hkey, hvalue⟩ (ih (k + 1 + 1) h)

theorem items_isAt (anchors : List (String × Nat)) (items : List Item) : ∀ k : Nat,
    itemsVertices anchors k (items.map Item.node) <+: g.vertices.toList.drop k →
      List.Forall₂ (Item.IsAt g) items (itemPlaces anchors k (items.map Item.node)) ∧
        (itemPlaces anchors k (items.map Item.node)).Nodup ∧
          ∀ j ∈ itemPlaces anchors k (items.map Item.node), k ≤ j := by
  induction items with
  | nil => exact fun _ _ => ⟨.nil, List.nodup_nil, fun _ hj => absurd hj List.not_mem_nil⟩
  | cons i items ih =>
      intro k h
      rcases vertices_append h with ⟨hitem, hrest⟩
      rcases vertex_of_prefix hitem with ⟨hvertex, hentries⟩
      rw [Node.length_vertices] at hrest
      rcases ih (k + i.node.size) hrest with ⟨hall, hnodup, hle⟩
      -- An item has a vertex of its own, so the places of the others are further on.
      have hsize : 0 < i.node.size := by
        rw [Item.node, Node.size]
        omega
      have hnew : k ∉ itemPlaces anchors (k + i.node.size) (items.map Item.node) :=
        fun hk => absurd (hle k hk) (by omega)
      refine ⟨.cons ⟨_, hvertex, entries_isAt anchors i.fields (k + 1) hentries⟩ hall,
        List.nodup_cons.mpr ⟨hnew, hnodup⟩, fun j hj => ?_⟩
      rcases List.mem_cons.mp hj with rfl | hj
      · exact Nat.le_refl _
      · exact Nat.le_trans (Nat.le_add_right k _) (hle j hj)

/-- The graph of a list of items. -/
theorem graph_listing (items : List Item) : ∃ ks,
    (Node.sequence .sequence (items.map Item.node)).graph.vertex 0 = .sequence .sequence ks ∧
      List.Forall₂ (Item.IsAt (Node.sequence .sequence (items.map Item.node)).graph) items ks ∧
        ks.Nodup ∧ 0 ∉ ks := by
  have hprefix : (Node.sequence .sequence (items.map Item.node)).vertices
      ((Node.sequence .sequence (items.map Item.node)).anchors 0) 0 <+:
        (Node.sequence .sequence (items.map Item.node)).graph.vertices.toList.drop 0 :=
    List.prefix_refl _
  rcases vertex_of_prefix hprefix with ⟨hroot, hrest⟩
  rcases items_isAt _ items 1 hrest with ⟨hat, hks, hle⟩
  exact ⟨_, hroot, hat, hks, fun h => absurd (hle 0 h) (by decide)⟩

/-- Items are collections. -/
theorem isCollection_of_isAt {items : List Item} {ks : List Nat}
    (h : List.Forall₂ (Item.IsAt g) items ks) : ∀ j ∈ ks, (g.tag j).isCollection = true := by
  induction h with
  | nil => exact fun _ hj => absurd hj List.not_mem_nil
  | cons hitem _ ih =>
      rcases hitem with ⟨es, hvertex, -⟩
      refine List.forall_mem_cons.mpr ⟨?_, ih⟩
      rw [Graph.tag, hvertex]
      rfl

end Places

/-! ### Filling the collections -/

/-- Keys that are texts ask for nothing, so a mapping of them is flat as it is. -/
theorem Graph.flatten_fields {g : Graph} {k : Nat} {fs : List Field} (fuel : Nat)
    (hat : List.Forall₂ (Field.IsAt g) fs (g.entries k))
    (hkeys : ∀ f ∈ fs, Tag.ofPlain f.key = .text) : g.flatten fuel k = .ok g := by
  cases fuel with
  | zero => rfl
  | succ fuel =>
      have hfold : (g.entries k).foldlM (flattenEntry (flatten fuel) k) (g, []) = .ok (g, []) := by
        generalize g.entries k = es at hat ⊢
        induction hat with
        | nil => rfl
        | @cons f e fs es he _ ih =>
            have htext : g.tag e.1 = .text := by
              rw [tag, he.1, Vertex.tag, hkeys f List.mem_cons_self]
            have hentry : flattenEntry (flatten fuel) k (g, []) e = .ok (g, []) := by
              simp only [flattenEntry, isMerge, htext, Bool.and_eq_true, beq_iff_eq, reduceCtorEq,
                false_and, if_false]
            rw [List.foldlM_cons, hentry]
            exact ih fun f' hf' => hkeys f' (List.mem_cons_of_mem f hf')
      rw [flatten, hfold]
      rfl

section Entries

variable {α : Type}

/-- A new key is put in at the end. -/
theorem insertEntry_of_new (entries : List (Value × α)) (key : Value) (value : α)
    (h : ∀ e ∈ entries, e.1.sameKey key = false) :
    insertEntry entries key value = entries ++ [(key, value)] := by
  induction entries with
  | nil => rfl
  | cons e entries ih =>
      rw [insertEntry, if_neg (by rw [h e List.mem_cons_self]; exact Bool.false_ne_true),
        ih fun e' he' => h e' (List.mem_cons_of_mem e he'), List.cons_append]

end Entries

theorem Content.ofEntries_values (entries : List (Value × Value)) :
    ofEntries (entries.map fun e => (e.1, .value e.2)) = .value (.map entries) := by
  have hvalues : ((entries.map fun e => (e.1, Part.value e.2)).mapM fun e =>
      e.2.value?.map fun v => (e.1, v)) = some entries := by
    rw [List.mapM_map]
    exact List.mapM_pure.trans (congrArg some (List.map_id entries))
  unfold ofEntries
  rw [hvalues]

/-- The entry that a field makes while its mapping is built. -/
def Field.part (f : Field) : Value × Part :=
  (f.entry.1, .value f.entry.2)

/-- Different keys are not taken for each other. -/
theorem Item.Keyed.pairwise {i : Item} (h : i.Keyed) :
    (i.fields.map Field.part).Pairwise (fun e e' => e.1.sameKey e'.1 = false) := by
  rw [List.pairwise_map]
  refine (List.pairwise_map.mp h.distinct).imp fun {f g} hne => ?_
  change (String.ofList f.key == String.ofList g.key) = false
  rw [beq_eq_false_iff_ne]
  exact fun h => hne (String.ofList_injective h)

namespace Building

variable {b : Building} {k : Nat}

theorem visit_scalar {tag : Tag} {cs : List Char} {v : Value}
    (h : b.graph.vertex k = .scalar tag cs) (hv : scalarValue tag cs = .ok v) :
    b.visit k = .ok (.value v, b) := by
  have htag : tag.isCollection = false := by
    cases tag with
    | orderedMap => exact absurd hv (by simp only [scalarValue, reduceCtorEq, not_false_eq_true])
    | pairs => exact absurd hv (by simp only [scalarValue, reduceCtorEq, not_false_eq_true])
    | set => exact absurd hv (by simp only [scalarValue, reduceCtorEq, not_false_eq_true])
    | sequence => exact absurd hv (by simp only [scalarValue, reduceCtorEq, not_false_eq_true])
    | mapping => exact absurd hv (by simp only [scalarValue, reduceCtorEq, not_false_eq_true])
    | _ => rfl
  unfold visit
  simp only [h, htag, Bool.false_eq_true, if_false, hv]
  rfl

theorem visitEntries_fields (fs : List Field) : ∀ (es : List (Nat × Nat))
    (entries : List (Value × Part)), List.Forall₂ (Field.IsAt b.graph) fs es →
      (∀ f ∈ fs, Tag.ofPlain f.key = .text) → (∀ f ∈ fs, ∃ v, f.cell.Denotes v) →
        (entries ++ fs.map Field.part).Pairwise (fun e e' => e.1.sameKey e'.1 = false) →
          b.visitEntries entries es = .ok (entries ++ fs.map Field.part, b) := by
  induction fs with
  | nil =>
      intro es entries hat _ _ _
      cases hat with
      | nil => rw [visitEntries, List.map_nil, List.append_nil]
  | cons f fs ih =>
      intro es entries hat hkeys hvalue hnew
      cases hat with
      | @cons _ e _ es he hes =>
          have hkey : b.visit e.1 = .ok (.value f.entry.1, b) :=
            visit_scalar he.1 (by rw [hkeys f List.mem_cons_self]; rfl)
          have hcell : b.visit e.2 = .ok (.value f.entry.2, b) := by
            rcases hvalue f List.mem_cons_self with ⟨v, hv⟩
            exact (visit_scalar he.2 hv).trans (by rw [Field.entry, hv.value_eq])
          -- No key comes twice, so the entry goes to the end and the induction to the rest.
          have hinsert : insertEntry entries f.entry.1 (.value f.entry.2) = entries ++ [f.part] :=
            insertEntry_of_new entries _ _ fun e' he' =>
              (List.pairwise_append.mp hnew).2.2 e' he' f.part List.mem_cons_self
          have hsplit : entries ++ (f :: fs).map Field.part =
              (entries ++ [f.part]) ++ fs.map Field.part := List.append_cons _ _ _
          rw [hsplit] at hnew ⊢
          have hrest := ih es (entries ++ [f.part]) hes
            (fun f' hf' => hkeys f' (List.mem_cons_of_mem f hf'))
            (fun f' hf' => hvalue f' (List.mem_cons_of_mem f hf')) hnew
          rw [visitEntries]
          simp only [bind, Except.bind, hkey, hcell, hinsert, hrest]
          rfl

/-- The mapping of an item becomes its value, and nothing else changes. -/
theorem fill_item {i : Item} (hat : i.IsAt b.graph k) (hkeys : i.Keyed)
    (hvalue : ∀ f ∈ i.fields, ∃ v, f.cell.Denotes v) :
    b.fill k = .ok (b.put k (.value i.value)) := by
  rcases hat with ⟨es, hvertex, hes⟩
  have hentries : b.graph.entries k = es := by rw [Graph.entries, hvertex]
  have htag : b.graph.tag k = .mapping := by rw [Graph.tag, hvertex, Vertex.tag]
  have hflat : b.graph.flatten (b.graph.merges + 1) k = .ok b.graph :=
    Graph.flatten_fields _ (by rw [hentries]; exact hes) hkeys.text
  have hmap : b.mapEntries k = .ok (i.fields.map Field.part, b) := by
    have hfields := visitEntries_fields i.fields es [] hes hkeys.text hvalue hkeys.pairwise
    unfold mapEntries
    simp only [hvertex, hflat, bind, Except.bind, hentries]
    exact hfields
  have hcontent : Content.ofEntries (i.fields.map Field.part) = .value i.value := by
    refine Eq.trans ?_ (Content.ofEntries_values _)
    rw [List.map_map]
    rfl
  unfold fill
  simp only [htag, hmap, bind, Except.bind, hcontent]
  rfl

theorem contents_put (b : Building) (k : Nat) (c : Content) (j : Nat) :
    (b.put k c).contents[j]? = if k = j then some c else b.contents[j]? := by
  rw [put, Std.HashMap.getElem?_insert]
  exact if_congr beq_iff_eq rfl rfl

/-- Items in different places are filled one by one. -/
theorem foldlM_fill_items (items : List Item) : ∀ (ks : List Nat) (b : Building),
    List.Forall₂ (Item.IsAt b.graph) items ks → ks.Nodup → (∀ i ∈ items, i.Keyed) →
      (∀ i ∈ items, ∀ f ∈ i.fields, ∃ v, f.cell.Denotes v) →
        ∃ b', ks.foldlM fill b = .ok b' ∧ b'.next = b.next ∧
          List.Forall₂ (fun i k => b'.contents[k]? = some (.value i.value)) items ks ∧
            ∀ j ∉ ks, b'.contents[j]? = b.contents[j]? := by
  induction items with
  | nil =>
      intro ks b hat _ _ _
      cases hat with
      | nil => exact ⟨b, rfl, rfl, .nil, fun _ _ => rfl⟩
  | cons i items ih =>
      intro ks b hat hks hkeys hvalue
      cases hat with
      | @cons _ k _ ks hitem hrest =>
          rcases List.nodup_cons.mp hks with ⟨hk, hks⟩
          have hfill := fill_item hitem (hkeys i List.mem_cons_self) (hvalue i List.mem_cons_self)
          rcases ih ks (b.put k (.value i.value)) hrest hks
              (fun i' hi' => hkeys i' (List.mem_cons_of_mem i hi'))
              (fun i' hi' => hvalue i' (List.mem_cons_of_mem i hi')) with
            ⟨b', hfold, hnext, hfilled, hother⟩
          -- The place of this item is none of the others, so what it has now is what stays.
          have hthis : b'.contents[k]? = some (.value i.value) := by
            rw [hother k hk, contents_put, if_pos rfl]
          refine ⟨b', ?_, hnext, .cons hthis hfilled, fun j hj => ?_⟩
          · rw [List.foldlM_cons, hfill]
            exact hfold
          · rw [hother j (List.not_mem_of_not_mem_cons hj), contents_put,
              if_neg (List.ne_of_not_mem_cons hj).symm]

/-- A collection that was not met before waits for the next level. -/
theorem visit_collection (hnew : b.contents[k]? = none)
    (htag : (b.graph.tag k).isCollection = true) :
    b.visit k = .ok (.collection k, { b.put k .waiting with next := k :: b.next }) := by
  have henter : b.enter k =
      .ok (.collection k, { b.put k .waiting with next := k :: b.next }) := by
    unfold enter
    rw [hnew]
    exact if_pos htag
  unfold visit
  cases hvertex : b.graph.vertex k with
  | scalar tag _ =>
      rw [Graph.tag, hvertex, Vertex.tag] at htag
      exact (if_pos htag).trans henter
  | sequence _ _ => exact henter
  | mapping _ _ => exact henter

theorem visitItems_collections (ks : List Nat) : ∀ b : Building, ks.Nodup →
    (∀ k ∈ ks, b.contents[k]? = none) → (∀ k ∈ ks, (b.graph.tag k).isCollection = true) →
      ∃ b', b.visitItems ks = .ok (ks.map .collection, b') ∧ b'.graph = b.graph ∧
        b'.next = ks.reverse ++ b.next := by
  induction ks with
  | nil => exact fun b _ _ _ => ⟨b, rfl, rfl, rfl⟩
  | cons k ks ih =>
      intro b hks hnew htag
      rcases List.nodup_cons.mp hks with ⟨hk, hks⟩
      have hvisit := visit_collection (hnew k List.mem_cons_self) (htag k List.mem_cons_self)
      have hrest : ∀ j ∈ ks, (b.put k .waiting).contents[j]? = none := fun j hj => by
        rw [contents_put, if_neg (ne_of_mem_of_not_mem hj hk).symm]
        exact hnew j (List.mem_cons_of_mem k hj)
      rcases ih { b.put k .waiting with next := k :: b.next } hks hrest
          (fun j hj => htag j (List.mem_cons_of_mem k hj)) with ⟨b', hvisits, hgraph, hnext⟩
      refine ⟨b', ?_, hgraph, ?_⟩
      · rw [visitItems]
        simp only [bind, Except.bind, hvisit, hvisits]
        rfl
      · rw [hnext, List.reverse_cons, List.append_assoc]
        rfl

/-- A list of collections that were not met before waits for them. -/
theorem fill_collections {ks : List Nat} (hne : ks ≠ [])
    (hroot : b.graph.vertex k = .sequence .sequence ks) (hks : ks.Nodup)
    (hnew : ∀ j ∈ ks, b.contents[j]? = none)
    (htag : ∀ j ∈ ks, (b.graph.tag j).isCollection = true) :
    ∃ b' : Building, b.fill k = .ok (b'.put k (.list (ks.map .collection))) ∧ b'.graph = b.graph ∧
      b'.next = ks.reverse ++ b.next := by
  rcases visitItems_collections ks b hks hnew htag with ⟨b', hvisits, hgraph, hnext⟩
  have hlist : Content.ofItems (ks.map .collection) = .list (ks.map .collection) := by
    cases ks with
    | nil => exact absurd rfl hne
    | cons j ks => rfl
  have hsequence : b.graph.tag k = .sequence := by rw [Graph.tag, hroot, Vertex.tag]
  refine ⟨b', ?_, hgraph, hnext⟩
  unfold fill
  simp only [hsequence, hroot, bind, Except.bind, hvisits, hlist]
  rfl

theorem fillAll_done (h : b.next = []) (fuel : Nat) : fillAll fuel b = .ok b := by
  cases fuel with
  | zero => rfl
  | succ fuel => rw [fillAll, h, List.isEmpty_nil, if_pos rfl]

theorem fillAll_level (h : b.next ≠ []) (fuel : Nat) : fillAll (fuel + 1) b =
    b.next.reverse.foldlM fill { b with next := [] } >>= fillAll fuel := by
  rw [fillAll, if_neg (by rw [List.isEmpty_iff]; exact h)]

/-- What is a value already is read back as it is. -/
theorem valueOf_value {v : Value} (h : b.contents[k]? = some (.value v)) (fuel above : Nat) :
    b.valueOf (fuel + 1) above [] (.collection k) = v := by
  unfold valueOf
  rw [h]
  rfl

theorem map_valueOf {items : List Item} {ks : List Nat}
    (h : List.Forall₂ (fun i k => b.contents[k]? = some (.value i.value)) items ks)
    (fuel above : Nat) :
    (ks.map Part.collection).map (b.valueOf (fuel + 1) above []) = items.map Item.value := by
  induction h with
  | nil => rfl
  | cons hitem _ ih =>
      rw [List.map_cons, List.map_cons, List.map_cons, valueOf_value hitem, ih]

/-- A list with the items of a list of mappings at the places of which it consists. -/
theorem fillAll_listing {items : List Item} {ks : List Nat} (hne : ks ≠ [])
    (hroot : b.graph.vertex k = .sequence .sequence ks) (hk : k ∉ ks) (hks : ks.Nodup)
    (hat : List.Forall₂ (Item.IsAt b.graph) items ks) (hkeys : ∀ i ∈ items, i.Keyed)
    (hvalue : ∀ i ∈ items, ∀ f ∈ i.fields, ∃ v, f.cell.Denotes v)
    (hnew : ∀ j ∈ ks, b.contents[j]? = none) (hnext : b.next = [k]) (fuel : Nat) :
    ∃ b', fillAll (fuel + 2) b = .ok b' ∧ b'.contents[k]? = some (.list (ks.map .collection)) ∧
      List.Forall₂ (fun i k => b'.contents[k]? = some (.value i.value)) items ks := by
  rcases fill_collections (b := ⟨b.graph, b.contents, []⟩) hne hroot hks hnew
    (isCollection_of_isAt hat) with ⟨b₁, hfill, hgraph, hnext₁⟩
  rcases foldlM_fill_items items ks { b₁.put k (.list (ks.map .collection)) with next := [] }
      (by change List.Forall₂ (Item.IsAt b₁.graph) items ks; rw [hgraph]; exact hat) hks hkeys
      hvalue with ⟨b₂, hfold, hnext₂, hfilled, hother⟩
  refine ⟨b₂, ?_, ?_, hfilled⟩
  · have hfirst : b.next.reverse.foldlM fill { b with next := [] } =
        .ok (b₁.put k (.list (ks.map .collection))) := by
      rw [hnext, List.reverse_singleton, List.foldlM_cons, hfill]
      rfl
    have hsecond : (b₁.put k (.list (ks.map .collection))).next = ks.reverse :=
      hnext₁.trans (List.append_nil _)
    -- The first level has the list alone, the second one its items, and then there is none.
    rw [fillAll_level (by rw [hnext]; exact List.cons_ne_nil k []), hfirst]
    change fillAll (fuel + 1) (b₁.put k (.list (ks.map .collection))) = .ok b₂
    rw [fillAll_level (by rw [hsecond]; exact List.reverse_ne_nil_iff.mpr hne), hsecond,
      List.reverse_reverse, hfold]
    exact fillAll_done hnext₂ fuel
  · rw [hother k hk]
    exact (contents_put b₁ k _ k).trans (if_pos rfl)

end Building

/-- The value of the list's node. -/
theorem value_listing (items : List Item) (hne : items ≠ []) (hkeys : ∀ i ∈ items, i.Keyed)
    (hvalue : ∀ i ∈ items, ∀ f ∈ i.fields, ∃ v, f.cell.Denotes v) :
    (Node.sequence .sequence (items.map Item.node)).value =
      .ok (.list (items.map Item.value)) := by
  rcases graph_listing items with ⟨ks, hroot, hat, hks, hzero⟩
  have hsize : 0 < (Node.sequence .sequence (items.map Item.node)).graph.vertices.size := by
    rw [Node.size_graph, Node.size]
    exact Nat.lt_add_right _ Nat.one_pos
  unfold Node.value
  generalize (Node.sequence .sequence (items.map Item.node)).graph = g at *
  rcases Nat.exists_eq_add_of_le' hsize with ⟨n, hn⟩
  have hplaces : ks ≠ [] := by
    rintro rfl
    exact hne (List.forall₂_nil_right_iff.mp hat)
  have hvisit : Building.visit ⟨g, ∅, []⟩ 0 =
      .ok (.collection 0, { Building.put ⟨g, ∅, []⟩ 0 .waiting with next := [0] }) :=
    Building.visit_collection Std.HashMap.getElem?_empty (by rw [Graph.tag, hroot]; rfl)
  have hnew : ∀ j ∈ ks, (Building.put ⟨g, ∅, []⟩ 0 .waiting).contents[j]? = none := by
    intro j hj
    rw [Building.contents_put, if_neg (ne_of_mem_of_not_mem hj hzero).symm]
    exact Std.HashMap.getElem?_empty
  rcases Building.fillAll_listing (b := { Building.put ⟨g, ∅, []⟩ 0 .waiting with next := [0] })
      hplaces hroot hzero hks hat hkeys hvalue hnew rfl n with ⟨b, hfill, hlist, hfilled⟩
  have hread : b.valueOf (n + 4) 2 [] (.collection 0) = .list (items.map Item.value) := by
    have hitems := Building.map_valueOf hfilled (n + 2) 1
    unfold Building.valueOf
    rw [hlist]
    exact congrArg Value.list hitems
  simp only [Node.place, bind, Except.bind, hvisit, hn, hfill, pure, Except.pure, lookedInto,
    hread]

/-- The value of a list. -/
theorem load_listing (items : List Item) (hne : items ≠ []) (hitems : ∀ i ∈ items, i.Sound)
    (hkeys : ∀ i ∈ items, i.Keyed)
    (hvalue : ∀ i ∈ items, ∀ f ∈ i.fields, ∃ v, f.cell.Denotes v) (final : List Char)
    (hfinal : final = [] ∨ final = ['\n']) :
    load (listing items ++ final) =
      .ok (.list (items.map fun i => .map (i.fields.map Field.entry))) := by
  unfold load document?
  rw [scanTokens_listing items hne hitems final hfinal]
  simp only [bind, Except.bind, ofTokens?_listing]
  exact value_listing items hne hkeys hvalue

end OpcodeForge.Yaml
