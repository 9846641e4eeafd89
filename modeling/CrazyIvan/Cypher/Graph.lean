import Mathlib.Tactic

/-!
Property graphs, the store a Cypher statement works on.

A graph carries the proofs that make it one: node and relationship ids are not
reused and every relationship ends in nodes of the graph. The writes a
statement can do are `addNode`, `addRel`, `mapNodes`, `mapRels` (property
writes) and `detachDelete`.

A pattern `(a)-[r]->(b)` ranges over `Graph.triples`, the relationships with
their two end nodes, so each write has one lemma saying what it does to the
nodes and one saying what it does to the triples; nothing further needs to look
at ids.
-/

namespace Cypher

/-- A value a property or a parameter can hold. An absent property has none. -/
inductive Value (R : Type) where
  | bool (b : Bool)
  | int (n : ℤ)
  | num (x : R)
  | str (s : String)
  | strs (l : List String)
deriving DecidableEq

/-- The properties of a node or a relationship, by name. -/
abbrev Props (R : Type) := String → Option (Value R)

structure Node (R : Type) where
  id : ℕ
  label : String
  props : Props R

structure Rel (R : Type) where
  id : ℕ
  type : String
  src : ℕ
  dst : ℕ
  props : Props R

/-- A property graph. `next` is above every id handed out. -/
@[ext]
structure Graph (R : Type) where
  nodes : List (Node R)
  rels : List (Rel R)
  next : ℕ
  nodes_nodup : (nodes.map Node.id).Nodup
  nodes_lt : ∀ n ∈ nodes, n.id < next
  rels_nodup : (rels.map Rel.id).Nodup
  rels_lt : ∀ r ∈ rels, r.id < next
  src_mem : ∀ r ∈ rels, r.src ∈ nodes.map Node.id
  dst_mem : ∀ r ∈ rels, r.dst ∈ nodes.map Node.id

variable {R : Type}

namespace Graph

/-- The graph without nodes. -/
def empty : Graph R := ⟨[], [], 0, by simp, by simp, by simp, by simp, by simp, by simp⟩

/-- The node with a given id. -/
def node? (g : Graph R) (i : ℕ) : Option (Node R) := g.nodes.find? (·.id = i)

/-- The relationship with a given id. -/
def rel? (g : Graph R) (i : ℕ) : Option (Rel R) := g.rels.find? (·.id = i)

/-- The relationships, each between its end nodes. -/
def triples (g : Graph R) : List (Node R × Rel R × Node R) :=
  g.rels.filterMap fun r =>
    (g.node? r.src).bind fun s => (g.node? r.dst).map fun d => (s, r, d)

/-! ### Reading -/

lemma eq_of_id_eq (g : Graph R) {n m : Node R} (hn : n ∈ g.nodes) (hm : m ∈ g.nodes)
    (h : n.id = m.id) : n = m :=
  List.inj_on_of_nodup_map g.nodes_nodup hn hm h

lemma node?_eq_some (g : Graph R) {i : ℕ} {n : Node R} :
    g.node? i = some n ↔ n ∈ g.nodes ∧ n.id = i := by
  rw [node?]
  constructor
  · intro h
    exact ⟨List.mem_of_find?_eq_some h, by simpa using List.find?_some h⟩
  · rintro ⟨hn, rfl⟩
    cases hf : g.nodes.find? (·.id = n.id) with
    | none => simpa using List.find?_eq_none.mp hf n hn
    | some m =>
        have hm : m.id = n.id := by simpa using List.find?_some hf
        rw [g.eq_of_id_eq (List.mem_of_find?_eq_some hf) hn hm]

lemma exists_node? (g : Graph R) {i : ℕ} (h : i ∈ g.nodes.map Node.id) :
    ∃ n, g.node? i = some n := by
  obtain ⟨n, hn, hi⟩ := List.mem_map.mp h
  exact ⟨n, g.node?_eq_some.mpr ⟨hn, hi⟩⟩

lemma mem_triples (g : Graph R) {s d : Node R} {r : Rel R} :
    (s, r, d) ∈ g.triples ↔
      r ∈ g.rels ∧ s ∈ g.nodes ∧ d ∈ g.nodes ∧ s.id = r.src ∧ d.id = r.dst := by
  simp only [triples, List.mem_filterMap, Option.bind_eq_some_iff, Option.map_eq_some_iff,
    node?_eq_some, Prod.mk.injEq]
  constructor
  · rintro ⟨r', hr', s', ⟨hs, hsi⟩, d', ⟨hd, hdi⟩, rfl, rfl, rfl⟩
    exact ⟨hr', hs, hd, hsi, hdi⟩
  · rintro ⟨hr, hs, hd, hsi, hdi⟩
    exact ⟨r, hr, s, ⟨hs, hsi⟩, d, ⟨hd, hdi⟩, rfl, rfl, rfl⟩

lemma src_mem_of_triple (g : Graph R) {t : Node R × Rel R × Node R} (h : t ∈ g.triples) :
    t.1 ∈ g.nodes := (g.mem_triples.mp h).2.1

lemma dst_mem_of_triple (g : Graph R) {t : Node R × Rel R × Node R} (h : t ∈ g.triples) :
    t.2.2 ∈ g.nodes := (g.mem_triples.mp h).2.2.1

@[simp] lemma nodes_empty : (empty : Graph R).nodes = [] := rfl

@[simp] lemma triples_empty : (empty : Graph R).triples = [] := rfl

/-! ### Writing -/

/-- A new node, with the next id. -/
def addNode (g : Graph R) (label : String) (props : Props R) : Graph R where
  nodes := g.nodes ++ [⟨g.next, label, props⟩]
  rels := g.rels
  next := g.next + 1
  nodes_nodup := by
    rw [List.map_append, List.nodup_append]
    refine ⟨g.nodes_nodup, by simp, ?_⟩
    intro i hi j hj hij
    obtain ⟨n, hn, rfl⟩ := List.mem_map.mp hi
    have hlt := g.nodes_lt n hn
    simp only [List.map_cons, List.map_nil, List.mem_singleton] at hj
    omega
  nodes_lt := by
    intro n hn
    rcases List.mem_append.mp hn with h | h
    · exact (g.nodes_lt n h).trans (Nat.lt_succ_self _)
    · rw [List.mem_singleton.mp h]; exact Nat.lt_succ_self _
  rels_nodup := g.rels_nodup
  rels_lt := fun r hr => (g.rels_lt r hr).trans (Nat.lt_succ_self _)
  src_mem := fun r hr => by simp [g.src_mem r hr, -List.mem_map]
  dst_mem := fun r hr => by simp [g.dst_mem r hr, -List.mem_map]

/-- The node `addNode` makes. -/
def newNode (g : Graph R) (label : String) (props : Props R) : Node R := ⟨g.next, label, props⟩

/-- A new relationship between two nodes of the graph, with the next id. -/
def addRel (g : Graph R) (type : String) (src dst : ℕ) (props : Props R) : Graph R :=
  if h : src ∈ g.nodes.map Node.id ∧ dst ∈ g.nodes.map Node.id then
    { nodes := g.nodes
      rels := g.rels ++ [⟨g.next, type, src, dst, props⟩]
      next := g.next + 1
      nodes_nodup := g.nodes_nodup
      nodes_lt := fun n hn => (g.nodes_lt n hn).trans (Nat.lt_succ_self _)
      rels_nodup := by
        rw [List.map_append, List.nodup_append]
        refine ⟨g.rels_nodup, by simp, ?_⟩
        intro i hi j hj hij
        obtain ⟨n, hn, rfl⟩ := List.mem_map.mp hi
        have hlt := g.rels_lt n hn
        simp only [List.map_cons, List.map_nil, List.mem_singleton] at hj
        omega
      rels_lt := by
        intro r hr
        rcases List.mem_append.mp hr with h' | h'
        · exact (g.rels_lt r h').trans (Nat.lt_succ_self _)
        · rw [List.mem_singleton.mp h']; exact Nat.lt_succ_self _
      src_mem := by
        intro r hr
        rcases List.mem_append.mp hr with h' | h'
        · exact g.src_mem r h'
        · rw [List.mem_singleton.mp h']; exact h.1
      dst_mem := by
        intro r hr
        rcases List.mem_append.mp hr with h' | h'
        · exact g.dst_mem r h'
        · rw [List.mem_singleton.mp h']; exact h.2 }
  else g

/-- The relationship `addRel` makes. -/
def newRel (g : Graph R) (type : String) (src dst : ℕ) (props : Props R) : Rel R :=
  ⟨g.next, type, src, dst, props⟩

/-- New properties for every node. -/
def mapNodes (g : Graph R) (f : Node R → Props R) : Graph R where
  nodes := g.nodes.map fun n => { n with props := f n }
  rels := g.rels
  next := g.next
  nodes_nodup := by simpa [Function.comp_def] using g.nodes_nodup
  nodes_lt := by
    intro n hn
    obtain ⟨m, hm, rfl⟩ := List.mem_map.mp hn
    exact g.nodes_lt m hm
  rels_nodup := g.rels_nodup
  rels_lt := g.rels_lt
  src_mem := by simpa [Function.comp_def] using g.src_mem
  dst_mem := by simpa [Function.comp_def] using g.dst_mem

/-- New properties for every relationship. -/
def mapRels (g : Graph R) (f : Rel R → Props R) : Graph R where
  nodes := g.nodes
  rels := g.rels.map fun r => { r with props := f r }
  next := g.next
  nodes_nodup := g.nodes_nodup
  nodes_lt := g.nodes_lt
  rels_nodup := by simpa [Function.comp_def] using g.rels_nodup
  rels_lt := by
    intro r hr
    obtain ⟨m, hm, rfl⟩ := List.mem_map.mp hr
    exact g.rels_lt m hm
  src_mem := by
    intro r hr
    obtain ⟨m, hm, rfl⟩ := List.mem_map.mp hr
    exact g.src_mem m hm
  dst_mem := by
    intro r hr
    obtain ⟨m, hm, rfl⟩ := List.mem_map.mp hr
    exact g.dst_mem m hm

/-- Delete the nodes whose id is in a list, with every relationship at one of
them. -/
def detachDelete (g : Graph R) (ids : List ℕ) : Graph R where
  nodes := g.nodes.filter fun n => n.id ∉ ids
  rels := g.rels.filter fun r => r.src ∉ ids ∧ r.dst ∉ ids
  next := g.next
  nodes_nodup := g.nodes_nodup.sublist (List.filter_sublist.map _)
  nodes_lt := fun n hn => g.nodes_lt n (List.mem_of_mem_filter hn)
  rels_nodup := g.rels_nodup.sublist (List.filter_sublist.map _)
  rels_lt := fun r hr => g.rels_lt r (List.mem_of_mem_filter hr)
  src_mem := by
    intro r hr
    obtain ⟨hr, hids⟩ := List.mem_filter.mp hr
    obtain ⟨n, hn, hi⟩ := List.mem_map.mp (g.src_mem r hr)
    refine List.mem_map.mpr ⟨n, List.mem_filter.mpr ⟨hn, ?_⟩, hi⟩
    simp only [decide_eq_true_eq] at hids ⊢
    rw [hi]; exact hids.1
  dst_mem := by
    intro r hr
    obtain ⟨hr, hids⟩ := List.mem_filter.mp hr
    obtain ⟨n, hn, hi⟩ := List.mem_map.mp (g.dst_mem r hr)
    refine List.mem_map.mpr ⟨n, List.mem_filter.mpr ⟨hn, ?_⟩, hi⟩
    simp only [decide_eq_true_eq] at hids ⊢
    rw [hi]; exact hids.2

/-! ### What a write does to the nodes and the triples -/

@[simp] lemma nodes_addNode (g : Graph R) (label : String) (props : Props R) :
    (g.addNode label props).nodes = g.nodes ++ [g.newNode label props] := rfl

lemma node?_addNode (g : Graph R) (label : String) (props : Props R) {i : ℕ}
    (hi : i ∈ g.nodes.map Node.id) : (g.addNode label props).node? i = g.node? i := by
  obtain ⟨n, hn⟩ := g.exists_node? hi
  rw [hn, node?_eq_some, nodes_addNode]
  have h := g.node?_eq_some.mp hn
  exact ⟨List.mem_append_left _ h.1, h.2⟩

@[simp] lemma triples_addNode (g : Graph R) (label : String) (props : Props R) :
    (g.addNode label props).triples = g.triples := by
  refine List.filterMap_congr fun r hr => ?_
  rw [node?_addNode g label props (g.src_mem r hr), node?_addNode g label props (g.dst_mem r hr)]

@[simp] lemma nodes_addRel (g : Graph R) (type : String) (s d : ℕ) (props : Props R) :
    (g.addRel type s d props).nodes = g.nodes := by
  rw [addRel]
  split <;> rfl

lemma triples_addRel (g : Graph R) (type : String) {s d : Node R} (props : Props R)
    (hs : s ∈ g.nodes) (hd : d ∈ g.nodes) :
    (g.addRel type s.id d.id props).triples
      = g.triples ++ [(s, g.newRel type s.id d.id props, d)] := by
  have hs' : g.node? s.id = some s := g.node?_eq_some.mpr ⟨hs, rfl⟩
  have hd' : g.node? d.id = some d := g.node?_eq_some.mpr ⟨hd, rfl⟩
  have hmem : s.id ∈ g.nodes.map Node.id ∧ d.id ∈ g.nodes.map Node.id :=
    ⟨List.mem_map_of_mem hs, List.mem_map_of_mem hd⟩
  have hnode : ∀ i, (g.addRel type s.id d.id props).node? i = g.node? i := fun i => by
    rw [node?, nodes_addRel, node?]
  rw [triples, funext hnode, addRel, dif_pos hmem, List.filterMap_append]
  simp [triples, newRel, hs', hd']

@[simp] lemma nodes_mapNodes (g : Graph R) (f : Node R → Props R) :
    (g.mapNodes f).nodes = g.nodes.map fun n => { n with props := f n } := rfl

lemma node?_mapNodes (g : Graph R) (f : Node R → Props R) (i : ℕ) :
    (g.mapNodes f).node? i = (g.node? i).map fun n => { n with props := f n } := by
  rw [node?, nodes_mapNodes, List.find?_map, node?]
  rfl

lemma triples_mapNodes (g : Graph R) (f : Node R → Props R) :
    (g.mapNodes f).triples = g.triples.map fun t =>
      ({ t.1 with props := f t.1 }, t.2.1, { t.2.2 with props := f t.2.2 }) := by
  rw [triples, triples, List.map_filterMap]
  refine List.filterMap_congr fun r _ => ?_
  rw [node?_mapNodes, node?_mapNodes]
  cases g.node? r.src <;> cases g.node? r.dst <;> rfl

@[simp] lemma nodes_mapRels (g : Graph R) (f : Rel R → Props R) :
    (g.mapRels f).nodes = g.nodes := rfl

lemma triples_mapRels (g : Graph R) (f : Rel R → Props R) :
    (g.mapRels f).triples = g.triples.map fun t =>
      (t.1, { t.2.1 with props := f t.2.1 }, t.2.2) := by
  rw [triples, triples, List.map_filterMap, mapRels, List.filterMap_map]
  refine List.filterMap_congr fun r _ => ?_
  show (g.node? r.src).bind _ = _
  cases g.node? r.src with
  | none => rfl
  | some s =>
      show (g.node? r.dst).map _ = _
      cases g.node? r.dst <;> rfl

@[simp] lemma nodes_detachDelete (g : Graph R) (ids : List ℕ) :
    (g.detachDelete ids).nodes = g.nodes.filter fun n => n.id ∉ ids := rfl

@[simp] lemma rels_detachDelete (g : Graph R) (ids : List ℕ) :
    (g.detachDelete ids).rels = g.rels.filter fun r => r.src ∉ ids ∧ r.dst ∉ ids := rfl

lemma node?_detachDelete (g : Graph R) {ids : List ℕ} {i : ℕ} (hi : i ∉ ids) :
    (g.detachDelete ids).node? i = g.node? i := by
  ext n
  simp only [node?_eq_some, nodes_detachDelete, List.mem_filter, decide_eq_true_eq]
  constructor
  · rintro ⟨⟨hn, -⟩, rfl⟩
    exact ⟨hn, rfl⟩
  · rintro ⟨hn, rfl⟩
    exact ⟨⟨hn, hi⟩, rfl⟩

lemma detachDelete_nil (g : Graph R) : g.detachDelete [] = g := by
  obtain ⟨nodes, rels, _, _, _, _⟩ := g
  simp [detachDelete]

/-- The relationships that are left are those between nodes that are left. -/
lemma triples_detachDelete (g : Graph R) (ids : List ℕ) :
    (g.detachDelete ids).triples
      = g.triples.filter fun t => t.1.id ∉ ids ∧ t.2.2.id ∉ ids := by
  rw [triples, triples, rels_detachDelete, List.filter_filterMap, List.filterMap_filter]
  refine List.filterMap_congr fun r hr => ?_
  obtain ⟨s, hs⟩ := g.exists_node? (g.src_mem r hr)
  obtain ⟨d, hd⟩ := g.exists_node? (g.dst_mem r hr)
  have hsi : s.id = r.src := (g.node?_eq_some.mp hs).2
  have hdi : d.id = r.dst := (g.node?_eq_some.mp hd).2
  by_cases h : r.src ∉ ids ∧ r.dst ∉ ids
  · simp [h, hs, hd, g.node?_detachDelete h.1, g.node?_detachDelete h.2, hsi, hdi,
      Option.filter]
  · simp [h, hs, hd, hsi, hdi, Option.filter]

lemma mapNodes_mapNodes (g : Graph R) (f h : Node R → Props R) :
    (g.mapNodes f).mapNodes h = g.mapNodes fun n => h { n with props := f n } := by
  ext1
  · simp [mapNodes, Function.comp_def]
  · rfl
  · rfl

lemma mapNodes_self (g : Graph R) : g.mapNodes (fun n => n.props) = g := by
  ext1
  · simp [mapNodes]
  · rfl
  · rfl

lemma mapRels_mapRels (g : Graph R) (f h : Rel R → Props R) :
    (g.mapRels f).mapRels h = g.mapRels fun r => h { r with props := f r } := by
  ext1
  · rfl
  · simp [mapRels, Function.comp_def]
  · rfl

lemma mapRels_self (g : Graph R) : g.mapRels (fun r => r.props) = g := by
  ext1
  · rfl
  · simp [mapRels]
  · rfl

/-- The relationships of the triples are those of the graph. -/
lemma map_rel_triples (g : Graph R) : (g.triples.map fun t => t.2.1) = g.rels := by
  rw [triples, List.map_filterMap]
  calc _ = g.rels.filterMap some := List.filterMap_congr fun r hr => by
        obtain ⟨s, hs⟩ := g.exists_node? (g.src_mem r hr)
        obtain ⟨d, hd⟩ := g.exists_node? (g.dst_mem r hr)
        simp [hs, hd]
    _ = g.rels := List.filterMap_some

/-- No relationship occurs in two triples. -/
lemma triples_nodup (g : Graph R) : (g.triples.map fun t => t.2.1.id).Nodup := by
  have h := g.rels_nodup
  rw [← g.map_rel_triples, List.map_map] at h
  exact h

end Graph

end Cypher
