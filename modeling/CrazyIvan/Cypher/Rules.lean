import CrazyIvan.Cypher.Semantics

/-!
Rules for statements by their shape: what a statement of one pattern returns and
what its write does to the nodes and the triples of the graph.

* `answer_eq`, `answer_invalid`, `answer_missing`: a text that is read, one that
  is not, one that misses a parameter; `answer_reads`: one that does not write.
* `matchRows_node`, `matchRows_edge`, `matchRows_edge_where`: the reads.
* `createAll_attach`: a `CREATE` of a relationship to a new node, once for every
  row.
* `createAll_link`: a `CREATE` of a relationship between two matched nodes.
* `set_rels`, `set_nodes`: a `SET` on the matched entities.
-/

namespace Cypher

variable {R : Type}

section Reading

variable [Field R] [LinearOrder R] (fn : String → R → R)

/-! ### Answers -/

/-- A statement with all its parameters. -/
lemma answer_given {text : String} {st : Statement} (hparse : parse (lex text) = some st)
    {params : Params R} (hgiven : ∀ p ∈ st.params, (params.lookup p).isSome) (g : Graph R) :
    answer fn text params g =
      let res := st.update.apply fn params (matchRows fn params st.reads st.cond g) g
      match st.page with
      | none => (.rows (res.1.map (project st.ret)), res.2)
      | some page =>
          match page.apply params res.1 with
          | .error e => (.throw e, g)
          | .ok rows => (.rows (rows.map (project st.ret)), res.2) := by
  have hfind : st.params.find? (fun p => (params.lookup p).isNone) = none := by
    rw [List.find?_eq_none]
    intro p hp
    simpa using hgiven p hp
  simp only [answer, hparse, Statement.run, hfind]
  cases st.page with
  | none => rfl
  | some page =>
      dsimp only
      generalize page.apply params _ = paged
      cases paged <;> rfl

/-- A statement with all its parameters and without paging. -/
lemma answer_eq {text : String} {st : Statement} (hparse : parse (lex text) = some st)
    (params : Params R) (names : List String)
    (hnames : params.map Prod.fst = names)
    (hparams : ∀ p ∈ st.params, p ∈ names) (hpage : st.page = none)
    (g : Graph R) :
    answer fn text params g =
      (.rows ((st.update.apply fn params (matchRows fn params st.reads st.cond g) g).1.map
        (project st.ret)),
        (st.update.apply fn params (matchRows fn params st.reads st.cond g) g).2) := by
  have hgiven : ∀ p ∈ st.params, (params.lookup p).isSome := by
    intro p hp
    have hmem : p ∈ params.map Prod.fst := hnames ▸ hparams p hp
    simpa [Option.isSome_iff_ne_none, List.lookup_eq_none_iff] using hmem
  rw [answer_given fn hparse hgiven, hpage]

lemma answer_invalid {text : String} (hparse : parse (lex text) = none) (params : Params R)
    (g : Graph R) : answer fn text params g = (.throw "Invalid input", g) := by
  simp only [answer, hparse]

/-- A statement that misses a parameter is refused, whatever the graph. -/
lemma answer_expected {text : String} {st : Statement} {params : Params R}
    (hparse : parse (lex text) = some st) {p : String} (hp : p ∈ st.params)
    (hnone : params.lookup p = none) : ∃ what, ∀ g, answer fn text params g = (.throw what, g) := by
  cases hfind : st.params.find? (fun p => (params.lookup p).isNone) with
  | none =>
      have := List.find?_eq_none.mp hfind p hp
      simp [hnone] at this
  | some q =>
      exact ⟨"Expected a parameter named " ++ q, fun g => by
        simp only [answer, hparse, Statement.run, hfind]⟩

/-- Where one parameter is missing, the refusal names it. -/
lemma answer_expected_one {text : String} {st : Statement} {params : Params R}
    (hparse : parse (lex text) = some st) {p : String} (hp : p ∈ st.params)
    (hnone : params.lookup p = none)
    (hothers : ∀ q ∈ st.params, q ≠ p → (params.lookup q).isSome = true) (g : Graph R) :
    answer fn text params g = (.throw ("Expected a parameter named " ++ p), g) := by
  obtain ⟨q, hfind⟩ : ∃ q, st.params.find? (fun p => (params.lookup p).isNone) = some q := by
    rw [← Option.isSome_iff_exists, List.find?_isSome]
    exact ⟨p, hp, by rw [hnone, Option.isNone_none]⟩
  have hq : q = p := by
    by_contra hne
    have hgiven := hothers q (List.mem_of_find?_eq_some hfind) hne
    have hmissing := List.find?_some hfind
    rw [Option.isNone_iff_eq_none] at hmissing
    simp [hmissing] at hgiven
  simp only [answer, hparse, Statement.run, hfind, hq]

/-- A statement that misses a parameter does nothing. -/
lemma answer_missing {text : String} {st : Statement} {params : Params R}
    (hparse : parse (lex text) = some st) {p : String} (hp : p ∈ st.params)
    (hnone : params.lookup p = none) (g : Graph R) :
    ∃ what, answer fn text params g = (.throw what, g) :=
  (answer_expected fn hparse hp hnone).imp fun _ h => h g

/-- A statement without a write leaves the graph as it is, also where it fails. -/
lemma answer_reads {text : String} {st : Statement} (hparse : parse (lex text) = some st)
    (hread : st.update = .none) (params : Params R) (g : Graph R) :
    (answer fn text params g).2 = g := by
  simp only [answer, hparse, Statement.run, hread, Update.apply]
  cases st.params.find? fun p => (params.lookup p).isNone with
  | some p => rfl
  | none =>
      cases st.page with
      | none => rfl
      | some page =>
          dsimp only
          cases page.apply params (matchRows fn params st.reads st.cond g) <;> rfl

/-! ### Reads -/

variable (params : Params R)

@[simp] lemma holds_none (row : Row R) : holds fn params none row = true := rfl

lemma matchRows_nil (g : Graph R) : matchRows fn params [] none g = [[]] := by
  simp [matchRows]

lemma matchRows_node (p : NodePat) (g : Graph R) :
    matchRows fn params [.node p] none g =
      (g.nodes.filter (p.fits params)).map fun n => [(p.var, .node n)] := by
  simp [matchRows, matchPattern]

lemma matchRows_node_where (p : NodePat) (cond : Option Expr) (g : Graph R) :
    matchRows fn params [.node p] cond g =
      (g.nodes.filter fun n => p.fits params n && holds fn params cond [(p.var, .node n)]).map
        fun n => [(p.var, .node n)] := by
  simp only [matchRows, matchPattern, List.foldl_cons, List.foldl_nil, List.flatMap_singleton,
    List.nil_append, List.filter_map, List.filter_filter, Function.comp_def]
  simp only [Bool.and_comm]

lemma matchRows_edge (s : NodePat) (r : RelPat) (d : NodePat) (g : Graph R) :
    matchRows fn params [.edge s r d] none g =
      (g.triples.filter fun t =>
        s.fits params t.1 && r.fits params t.2.1 && d.fits params t.2.2).map fun t =>
          [(s.var, .node t.1), (r.var, .rel t.2.1), (d.var, .node t.2.2)] := by
  simp [matchRows, matchPattern]

lemma matchRows_edge_where (s : NodePat) (r : RelPat) (d : NodePat) (c : Expr) (g : Graph R) :
    matchRows fn params [.edge s r d] (some c) g =
      ((g.triples.filter fun t =>
        s.fits params t.1 && r.fits params t.2.1 && d.fits params t.2.2).map fun t =>
          [(s.var, .node t.1), (r.var, .rel t.2.1), (d.var, .node t.2.2)]).filter
        (holds fn params (some c)) := by
  simp [matchRows, matchPattern]

/-- Two node patterns give every pair. -/
lemma matchRows_pair (p q : NodePat) (g : Graph R) :
    matchRows fn params [.node p, .node q] none g =
      (g.nodes.filter (p.fits params)).flatMap fun n =>
        (g.nodes.filter (q.fits params)).map fun m => [(p.var, .node n), (q.var, .node m)] := by
  simp [matchRows, matchPattern, List.flatMap_map]

end Reading

variable (params : Params R)

/-! ### Conditions -/

lemma isTrue_or [Field R] [LinearOrder R] (a b : Option (Value R)) :
    Value.isTrue (BinOp.or.eval a b) = (Value.isTrue a || Value.isTrue b) := by
  rcases a with _ | ⟨(_ | _)⟩ | _ | _ | _ | _ <;> rcases b with _ | ⟨(_ | _)⟩ | _ | _ | _ | _ <;>
    rfl

lemma isTrue_and [Field R] [LinearOrder R] (a b : Option (Value R)) :
    Value.isTrue (BinOp.and.eval a b) = (Value.isTrue a && Value.isTrue b) := by
  rcases a with _ | ⟨(_ | _)⟩ | _ | _ | _ | _ <;> rcases b with _ | ⟨(_ | _)⟩ | _ | _ | _ | _ <;>
    rfl

lemma isTrue_eq [Field R] [LinearOrder R] (a : Option (Value R)) (v : Value R) :
    Value.isTrue (BinOp.eq.eval a (some v)) = decide (a = some v) := by
  cases a with
  | none => rfl
  | some w => simp [BinOp.eval, Value.isTrue]

/-! ### Parameters -/

/-- An expression reads only the parameters it mentions. -/
lemma eval_congr [Field R] [LinearOrder R] (fn : String → R → R) {params params' : Params R}
    (e : Expr) (h : ∀ p ∈ e.params, params.lookup p = params'.lookup p) (row : Row R) :
    e.eval fn params row = e.eval fn params' row := by
  induction e generalizing row with
  | param p => exact h p (by simp [Expr.params])
  | var | prop | num | nil | label => rfl
  | call f e ih => simp only [Expr.eval, ih h]
  | not e ih => simp only [Expr.eval, ih h]
  | coalesce a b iha ihb | bin op a b iha ihb | all x a b iha ihb | filter x a b iha ihb =>
      simp only [Expr.params, List.forall_mem_append] at h
      simp only [Expr.eval, iha h.1, ihb h.2]

lemma holds_congr [Field R] [LinearOrder R] (fn : String → R → R) {params params' : Params R}
    {cond : Option Expr}
    (h : ∀ p ∈ (cond.map Expr.params).getD [], params.lookup p = params'.lookup p) (row : Row R) :
    holds fn params cond row = holds fn params' cond row := by
  cases cond with
  | none => rfl
  | some e => simp only [holds, Option.all_some, eval_congr fn e h row]

/-- A pattern reads only the parameters it mentions. -/
lemma fits_congr [LinearOrder R] {params params' : Params R} (p : NodePat)
    (h : ∀ q ∈ p.props.map Prod.snd, params.lookup q = params'.lookup q) (n : Node R) :
    p.fits params n = p.fits params' n := by
  have hprops : matchProps params p.props n.props = matchProps params' p.props n.props := by
    simp only [matchProps]
    rw [Bool.eq_iff_iff, List.all_eq_true, List.all_eq_true]
    exact forall₂_congr fun e he => by rw [h e.2 (List.mem_map_of_mem he)]
  rw [NodePat.fits, NodePat.fits, hprops]

section Fits

variable [LinearOrder R]

/-- A pattern with a label and one property, whose parameter is given. -/
lemma fits_key {v l k p : String} {val : Value R} (hp : params.lookup p = some val)
    (n : Node R) :
    NodePat.fits params ⟨v, some l, [(k, p)]⟩ n
      = (decide (n.label = l) && decide (n.props k = some val)) := by
  simp [NodePat.fits, matchProps, hp]

lemma fits_label (v l : String) (n : Node R) :
    NodePat.fits params ⟨v, some l, []⟩ n = decide (n.label = l) := by
  simp [NodePat.fits, matchProps]

lemma rel_fits_type (v t : String) (r : Rel R) :
    RelPat.fits params ⟨v, t, []⟩ r = decide (r.type = t) := by
  simp [RelPat.fits, matchProps]

end Fits

/-! ### Paging -/

section Paging

variable [Field R] [LinearOrder R]

/-- The order of nodes by a property. -/
def NodeLe (prop : String) (n n' : Node R) : Prop := keyLe (n.props prop) (n'.props prop) = true

instance (prop : String) : DecidableRel (NodeLe (R := R) prop) := fun _ _ =>
  inferInstanceAs (Decidable (_ = _))

lemma nodeLe_iff {prop : String} {n n' : Node R} :
    NodeLe prop n n' ↔ orderKey (n.props prop) ≤ orderKey (n'.props prop) :=
  decide_eq_true_iff

/-- Strings are in their own order. -/
lemma orderKey_str_le {s t : String} :
    orderKey (some (.str s) : Option (Value R)) ≤ orderKey (some (.str t)) ↔ s ≤ t := by
  have hlt : [s] < [t] ↔ s < t := by
    constructor
    · intro h
      cases h with
      | rel h => exact h
      | cons h => cases h
    · exact fun h => .rel h
  simp only [orderKey, Prod.Lex.toLex_le_toLex, lt_irrefl, false_or, true_and, le_refl, and_true,
    List.singleton_inj, hlt]
  exact le_iff_lt_or_eq.symm

instance (prop : String) : IsTrans (Node R) (NodeLe prop) where
  trans _ _ _ h h' := nodeLe_iff.mpr (le_trans (nodeLe_iff.mp h) (nodeLe_iff.mp h'))

instance (prop : String) : Std.Total (NodeLe (R := R) prop) where
  total n n' := (le_total (orderKey (n.props prop)) (orderKey (n'.props prop))).imp
    nodeLe_iff.mpr nodeLe_iff.mpr

/-- A page of single nodes. -/
lemma page_nodes {v prop skip limit : String} {s l : ℤ}
    (hskip : params.lookup skip = some (.int s)) (hlimit : params.lookup limit = some (.int l))
    (ns : List (Node R)) :
    Page.apply params ⟨v, prop, skip, limit⟩ (ns.map fun n => [(v, .node n)]) =
      if s < 0 ∨ l < 0 then .error "SKIP and LIMIT must be non-negative integers"
      else .ok ((((ns.insertionSort (NodeLe prop)).drop s.toNat).take l.toNat).map
        fun n => [(v, .node n)]) := by
  simp only [Page.apply, hskip, hlimit, List.map_take, List.map_drop]
  split
  · rfl
  · congr 3
    exact (List.map_insertionSort _ _ _ ns fun a _ b _ => by simp [NodeLe]).symm

end Paging

/-! ### Creating nodes -/

/-- Only the parameters a property map names count. -/
lemma mkProps_congr {params params' : Params R} {ps : List (String × String)}
    (h : ∀ p ∈ ps.map Prod.snd, params.lookup p = params'.lookup p) :
    mkProps params ps = mkProps params' ps := by
  funext k
  rw [mkProps, mkProps]
  cases hk : ps.lookup k with
  | none => rfl
  | some p =>
      obtain ⟨l₁, l₂, hl, -⟩ := List.lookup_eq_some_iff.mp hk
      exact h p (by simp [hl])

lemma mem_of_lookup {α β : Type} [BEq α] [LawfulBEq α] {l : List (α × β)} {k : α} {b : β}
    (h : l.lookup k = some b) : (k, b) ∈ l := by
  obtain ⟨l₁, l₂, rfl, -⟩ := List.lookup_eq_some_iff.mp h
  simp

/-- A property that is created has the value of its parameter. -/
lemma exists_entry_of_mkProps {entries : List (String × String)} {name : String} {v : Value R}
    (h : mkProps params entries name = some v) :
    ∃ p, (name, p) ∈ entries ∧ params.lookup p = some v := by
  rw [mkProps, Option.bind_eq_some_iff] at h
  obtain ⟨p, hp, hv⟩ := h
  exact ⟨p, mem_of_lookup hp, hv⟩

@[simp] lemma createAll_nil (p : Pattern) (g : Graph R) :
    createAll params p [] g = ([], g) := rfl

@[simp] lemma createAll_cons (p : Pattern) (row : Row R) (rows : List (Row R)) (g : Graph R) :
    createAll params p (row :: rows) g =
      ((createPattern params p row g).1 ::
          (createAll params p rows (createPattern params p row g).2).1,
        (createAll params p rows (createPattern params p row g).2).2) := rfl

/-- A node on its own. -/
lemma createAll_node {v l : String} {ps : List (String × String)} (g : Graph R) :
    createAll params (.node ⟨v, some l, ps⟩) [[]] g =
      ([[(v, .node (g.newNode l (mkProps params ps)))]],
        g.addNode l (mkProps params ps)) := by
  rw [createAll_cons, createAll_nil]
  simp [createPattern, bindEnd]

/-! ### Creating relationships to new nodes -/

/-- What attaching a new node to each of some nodes makes of a graph: the new
triples, in the order of the nodes they start from. -/
structure Attached (l type : String) (dprops rprops : Props R) (ns : List (Node R))
    (g g' : Graph R) (ts : List (Node R × Rel R × Node R)) : Prop where
  nodes : g'.nodes = g.nodes ++ ts.map fun t => t.2.2
  triples : g'.triples = g.triples ++ ts
  src : ts.map Prod.fst = ns
  rel : ∀ t ∈ ts, t.2.1.type = type ∧ t.2.1.props = rprops
  dst : ∀ t ∈ ts, t.2.2.label = l ∧ t.2.2.props = dprops

/-- The triple that attaching to one node makes. -/
def attachOne (l type : String) (dprops rprops : Props R) (n : Node R) (g : Graph R) :
    Graph R :=
  (g.addNode l dprops).addRel type n.id (g.newNode l dprops).id rprops

lemma attachOne_nodes (l type : String) (dprops rprops : Props R) (n : Node R) (g : Graph R) :
    (attachOne l type dprops rprops n g).nodes = g.nodes ++ [g.newNode l dprops] := by
  simp [attachOne]

lemma attachOne_triples (l type : String) (dprops rprops : Props R) {n : Node R} {g : Graph R}
    (hn : n ∈ g.nodes) :
    (attachOne l type dprops rprops n g).triples = g.triples ++
      [(n, (g.addNode l dprops).newRel type n.id (g.newNode l dprops).id rprops,
        g.newNode l dprops)] := by
  rw [attachOne, Graph.triples_addRel _ _ _ (by simp [hn]) (by simp), Graph.triples_addNode]

/-- A `CREATE` of a relationship from a bound node to a new one, for every
row. -/
theorem createAll_attach (sp : NodePat) (rv type : String) (rps : List (String × String))
    (dv l : String) (dps : List (String × String)) (hsd : dv ≠ sp.var) (ns : List (Node R))
    {g : Graph R} (hns : ∀ n ∈ ns, n ∈ g.nodes) :
    ∃ ts, Attached l type (mkProps params dps) (mkProps params rps) ns g
        (createAll params (.edge sp ⟨rv, type, rps⟩ ⟨dv, some l, dps⟩)
          (ns.map fun n => [(sp.var, .node n)]) g).2 ts ∧
      (createAll params (.edge sp ⟨rv, type, rps⟩ ⟨dv, some l, dps⟩)
          (ns.map fun n => [(sp.var, .node n)]) g).1
        = ts.map fun t => [(sp.var, .node t.1), (dv, .node t.2.2), (rv, .rel t.2.1)] := by
  induction ns generalizing g with
  | nil =>
      rw [List.map_nil, createAll_nil]
      exact ⟨[], ⟨by simp, by simp, rfl, by simp, by simp⟩, rfl⟩
  | cons n ns ih =>
      have hn : n ∈ g.nodes := hns n (by simp)
      have hcreate : createPattern params (.edge sp ⟨rv, type, rps⟩ ⟨dv, some l, dps⟩)
          [(sp.var, .node n)] g =
          ([(sp.var, .node n), (dv, .node (g.newNode l (mkProps params dps))),
            (rv, .rel ((g.addNode l (mkProps params dps)).newRel type n.id
              (g.newNode l (mkProps params dps)).id (mkProps params rps)))],
            attachOne l type (mkProps params dps) (mkProps params rps) n g) := by
        have hdv : (dv == sp.var) = false := by simpa using hsd
        simp [createPattern, bindEnd, List.lookup_cons, hdv, attachOne]
      have hns' : ∀ m ∈ ns,
          m ∈ (attachOne l type (mkProps params dps) (mkProps params rps) n g).nodes :=
        fun m hm => by
          rw [attachOne_nodes]
          exact List.mem_append_left _ (hns m (by simp [hm]))
      obtain ⟨ts, hts, hrows⟩ := ih hns'
      refine ⟨(n, (g.addNode l (mkProps params dps)).newRel type n.id
        (g.newNode l (mkProps params dps)).id (mkProps params rps),
        g.newNode l (mkProps params dps)) :: ts, ⟨?_, ?_, ?_, ?_, ?_⟩, ?_⟩
      · rw [List.map_cons, createAll_cons, hcreate, hts.nodes, attachOne_nodes]
        simp
      · rw [List.map_cons, createAll_cons, hcreate, hts.triples, attachOne_triples _ _ _ _ hn]
        simp
      · rw [List.map_cons, hts.src]
      · rintro t (_ | ⟨_, ht⟩)
        · exact ⟨rfl, rfl⟩
        · exact hts.rel t ht
      · rintro t (_ | ⟨_, ht⟩)
        · exact ⟨rfl, rfl⟩
        · exact hts.dst t ht
      · rw [List.map_cons, createAll_cons, hcreate, hrows]
        rfl

/-! ### Creating relationships between nodes -/

/-- What linking the nodes of some pairs makes of a graph. -/
structure Linked (type : String) (rprops : Props R) (ps : List (Node R × Node R))
    (g g' : Graph R) (ts : List (Node R × Rel R × Node R)) : Prop where
  nodes : g'.nodes = g.nodes
  triples : g'.triples = g.triples ++ ts
  ends : ts.map (fun t => (t.1, t.2.2)) = ps
  rel : ∀ t ∈ ts, t.2.1.type = type ∧ t.2.1.props = rprops

section Product

variable {type : String} {rprops : Props R} {ns ms : List (Node R)} {g g' : Graph R}
  {ts : List (Node R × Rel R × Node R)}

/-- The ends of the new relationships, where each of some nodes is linked to each of
others. -/
lemma Linked.mem_product
    (h : Linked type rprops (ns.flatMap fun n => ms.map fun m => (n, m)) g g' ts)
    {t : Node R × Rel R × Node R} (ht : t ∈ ts) : t.1 ∈ ns ∧ t.2.2 ∈ ms := by
  have hends : (t.1, t.2.2) ∈ ns.flatMap fun n => ms.map fun m => (n, m) :=
    h.ends ▸ List.mem_map_of_mem ht
  obtain ⟨n, hn, hpair⟩ := List.mem_flatMap.mp hends
  obtain ⟨m, hm, heq⟩ := List.mem_map.mp hpair
  obtain ⟨rfl, rfl⟩ := Prod.mk.inj heq
  exact ⟨hn, hm⟩

lemma Linked.ne_nil_of_product
    (h : Linked type rprops (ns.flatMap fun n => ms.map fun m => (n, m)) g g' ts)
    (hns : ns ≠ []) (hms : ms ≠ []) : ts ≠ [] := by
  rintro rfl
  obtain ⟨n, hn⟩ := List.exists_mem_of_ne_nil ns hns
  obtain ⟨m, hm⟩ := List.exists_mem_of_ne_nil ms hms
  have hmem : (n, m) ∈ ns.flatMap fun n => ms.map fun m => (n, m) :=
    List.mem_flatMap.mpr ⟨n, hn, List.mem_map_of_mem hm⟩
  rw [← h.ends] at hmem
  cases hmem

end Product

/-- A `CREATE` of a relationship between two bound nodes, for every row. -/
theorem createAll_link (sp : NodePat) (rv type : String) (rps : List (String × String))
    (dp : NodePat) (hsd : dp.var ≠ sp.var) (ps : List (Node R × Node R)) {g : Graph R}
    (hps : ∀ p ∈ ps, p.1 ∈ g.nodes ∧ p.2 ∈ g.nodes) :
    ∃ ts, Linked type (mkProps params rps) ps g
        (createAll params (.edge sp ⟨rv, type, rps⟩ dp)
          (ps.map fun p => [(sp.var, .node p.1), (dp.var, .node p.2)]) g).2 ts ∧
      (createAll params (.edge sp ⟨rv, type, rps⟩ dp)
          (ps.map fun p => [(sp.var, .node p.1), (dp.var, .node p.2)]) g).1
        = ts.map fun t =>
            [(sp.var, .node t.1), (dp.var, .node t.2.2), (rv, .rel t.2.1)] := by
  induction ps generalizing g with
  | nil =>
      rw [List.map_nil, createAll_nil]
      exact ⟨[], ⟨by simp, by simp, rfl, by simp⟩, rfl⟩
  | cons p ps ih =>
      obtain ⟨hp1, hp2⟩ := hps p (by simp)
      have hcreate : createPattern params (.edge sp ⟨rv, type, rps⟩ dp)
          [(sp.var, .node p.1), (dp.var, .node p.2)] g =
          ([(sp.var, .node p.1), (dp.var, .node p.2),
            (rv, .rel (g.newRel type p.1.id p.2.id (mkProps params rps)))],
            g.addRel type p.1.id p.2.id (mkProps params rps)) := by
        have hdv : (dp.var == sp.var) = false := by simpa using hsd
        simp [createPattern, bindEnd, List.lookup_cons, hdv]
      have hps' : ∀ q ∈ ps, q.1 ∈ (g.addRel type p.1.id p.2.id (mkProps params rps)).nodes ∧
          q.2 ∈ (g.addRel type p.1.id p.2.id (mkProps params rps)).nodes :=
        fun q hq => by simpa using hps q (by simp [hq])
      obtain ⟨ts, hts, hrows⟩ := ih hps'
      refine ⟨(p.1, g.newRel type p.1.id p.2.id (mkProps params rps), p.2) :: ts,
        ⟨?_, ?_, ?_, ?_⟩, ?_⟩
      · rw [List.map_cons, createAll_cons, hcreate, hts.nodes, Graph.nodes_addRel]
      · rw [List.map_cons, createAll_cons, hcreate, hts.triples,
          Graph.triples_addRel _ _ _ hp1 hp2]
        simp
      · rw [List.map_cons, hts.ends]
      · rintro t (_ | ⟨_, ht⟩)
        · exact ⟨rfl, rfl⟩
        · exact hts.rel t ht
      · rw [List.map_cons, createAll_cons, hcreate, hrows]
        rfl

/-! ### Setting properties -/

/-- The properties after some assignments, where `val` gives the value of an
assignment from the properties so far. -/
def assign (val : SetItem → Props R → Option (Value R)) (items : List SetItem)
    (ps : Props R) : Props R :=
  items.foldl (fun ps it => Function.update ps it.prop (val it ps)) ps

lemma assign_cons (val : SetItem → Props R → Option (Value R)) (it : SetItem)
    (items : List SetItem) (ps : Props R) :
    assign val (it :: items) ps
      = assign val items (Function.update ps it.prop (val it ps)) := rfl

/-- What assignments keep that each of them keeps. -/
lemma assign_invariant {P : Props R → Prop} {val : SetItem → Props R → Option (Value R)}
    {items : List SetItem}
    (h : ∀ it ∈ items, ∀ ps, P ps → P (Function.update ps it.prop (val it ps))) {ps : Props R}
    (hps : P ps) : P (assign val items ps) :=
  List.foldlRecOn items _ hps fun ps hps it hit => h it hit ps hps

/-- The value of an assignment from a parameter. -/
def paramVal (params : Params R) (it : SetItem) (_ : Props R) : Option (Value R) :=
  match it.value with
  | .param p => params.lookup p
  | _ => none

/-- A property no assignment names is kept. -/
lemma assign_of_notMem (val : SetItem → Props R → Option (Value R)) {items : List SetItem}
    {k : String} (hk : k ∉ items.map SetItem.prop) (ps : Props R) :
    assign val items ps k = ps k := by
  induction items generalizing ps with
  | nil => rfl
  | cons it items ih =>
      rw [List.map_cons, List.mem_cons, not_or] at hk
      rw [assign_cons, ih hk.2, Function.update_of_ne hk.1]

lemma mkProps_cons_self (k p : String) (ps : List (String × String)) :
    mkProps params ((k, p) :: ps) k = params.lookup p := by
  simp [mkProps]

lemma mkProps_cons_of_ne {k k' : String} (h : k' ≠ k) (p : String)
    (ps : List (String × String)) :
    mkProps params ((k, p) :: ps) k' = mkProps params ps k' := by
  have hk : (k' == k) = false := by simpa using h
  simp [mkProps, List.lookup_cons, hk]

lemma mkProps_of_notMem {k : String} {ps : List (String × String)}
    (h : k ∉ ps.map Prod.fst) : mkProps params ps k = none := by
  induction ps with
  | nil => rfl
  | cons e ps ih =>
      rw [List.map_cons, List.mem_cons, not_or] at h
      rw [mkProps_cons_of_ne params h.1, ih h.2]

/-- Assignments from parameters overwrite what a `CREATE` would create. -/
lemma assign_params (v : String) {entries : List (String × String)}
    (hnodup : (entries.map Prod.fst).Nodup)
    (hsome : ∀ p ∈ entries.map Prod.snd, (params.lookup p).isSome = true) (ps : Props R)
    (k : String) :
    assign (paramVal params) (entries.map fun e => ⟨v, e.1, .param e.2⟩) ps k
      = (mkProps params entries k).or (ps k) := by
  induction entries generalizing ps with
  | nil => rfl
  | cons e entries ih =>
      rw [List.map_cons, List.nodup_cons] at hnodup
      rw [List.map_cons, assign_cons,
        ih hnodup.2 (fun p hp => hsome p (List.mem_cons_of_mem _ hp))]
      by_cases hk : k = e.1
      · subst hk
        obtain ⟨x, hx⟩ := Option.isSome_iff_exists.mp (hsome e.2 (by simp))
        rw [mkProps_of_notMem params hnodup.1, Function.update_self, mkProps_cons_self]
        simp [paramVal, hx]
      · rw [Function.update_of_ne hk, mkProps_cons_of_ne params hk]

section Setting

variable [Field R] [LinearOrder R] (fn : String → R → R)

/-- The assignments of one row to a node. -/
lemma setItems_node {val : SetItem → Props R → Option (Value R)} {v : String} {row : Row R}
    {n : Node R} (hrow : row.lookup v = some (.node n)) {items : List SetItem}
    (hval : ∀ it ∈ items, it.var = v ∧ ∀ (m : Node R) (row : Row R),
      it.value.eval fn params ((v, .node m) :: row) = val it m.props) (g : Graph R) :
    items.foldl (setItem fn params row) g =
      g.mapNodes fun m => if m.id = n.id then assign val items m.props else m.props := by
  induction items generalizing g with
  | nil => simp [assign, Graph.mapNodes_self]
  | cons it items ih =>
      obtain ⟨hvar, heval⟩ := hval it (by simp)
      have hone : setItem fn params row g it = g.mapNodes fun m =>
          if m.id = n.id then Function.update m.props it.prop (val it m.props)
          else m.props := by
        simp only [setItem, hvar, hrow, heval]
      rw [List.foldl_cons, hone, ih (fun it' h => hval it' (by simp [h])),
        Graph.mapNodes_mapNodes]
      congr 1
      funext m
      by_cases hm : m.id = n.id <;> simp [hm, assign_cons]

/-- The assignments of one row to a relationship. -/
lemma setItems_rel {val : SetItem → Props R → Option (Value R)} {v : String} {row : Row R}
    {r : Rel R} (hrow : row.lookup v = some (.rel r)) {items : List SetItem}
    (hval : ∀ it ∈ items, it.var = v ∧ ∀ (m : Rel R) (row : Row R),
      it.value.eval fn params ((v, .rel m) :: row) = val it m.props) (g : Graph R) :
    items.foldl (setItem fn params row) g =
      g.mapRels fun m => if m.id = r.id then assign val items m.props else m.props := by
  induction items generalizing g with
  | nil => simp [assign, Graph.mapRels_self]
  | cons it items ih =>
      obtain ⟨hvar, heval⟩ := hval it (by simp)
      have hone : setItem fn params row g it = g.mapRels fun m =>
          if m.id = r.id then Function.update m.props it.prop (val it m.props)
          else m.props := by
        simp only [setItem, hvar, hrow, heval]
      rw [List.foldl_cons, hone, ih (fun it' h => hval it' (by simp [h])),
        Graph.mapRels_mapRels]
      congr 1
      funext m
      by_cases hm : m.id = r.id <;> simp [hm, assign_cons]

/-- A `SET` on matched nodes, each matched once. -/
theorem set_nodes {val : SetItem → Props R → Option (Value R)} {v : String}
    {items : List SetItem}
    (hval : ∀ it ∈ items, it.var = v ∧ ∀ (m : Node R) (row : Row R),
      it.value.eval fn params ((v, .node m) :: row) = val it m.props)
    {ns : List (Node R)} (hns : (ns.map Node.id).Nodup) (g : Graph R) :
    (ns.map fun n => [(v, Binding.node n)]).foldl
        (fun g row => items.foldl (setItem fn params row) g) g =
      g.mapNodes fun m =>
        if m.id ∈ ns.map Node.id then assign val items m.props else m.props := by
  induction ns generalizing g with
  | nil => simp [Graph.mapNodes_self]
  | cons n ns ih =>
      have hrow : List.lookup v [(v, Binding.node n)] = some (.node n) := by simp
      rw [List.map_cons, List.nodup_cons] at hns
      rw [List.map_cons, List.foldl_cons, setItems_node params fn hrow hval, ih hns.2,
        Graph.mapNodes_mapNodes]
      congr 1
      funext m
      by_cases hm : m.id = n.id
      · simp [hm, hns.1]
      · simp [hm]

/-- A `SET` on matched relationships, each matched once. -/
theorem set_rels {val : SetItem → Props R → Option (Value R)} {sv v dv : String}
    (hsv : v ≠ sv) {items : List SetItem}
    (hval : ∀ it ∈ items, it.var = v ∧ ∀ (m : Rel R) (row : Row R),
      it.value.eval fn params ((v, .rel m) :: row) = val it m.props)
    {ts : List (Node R × Rel R × Node R)} (hts : (ts.map fun t => t.2.1.id).Nodup)
    (g : Graph R) :
    (ts.map fun t => [(sv, Binding.node t.1), (v, .rel t.2.1), (dv, .node t.2.2)]).foldl
        (fun g row => items.foldl (setItem fn params row) g) g =
      g.mapRels fun m =>
        if m.id ∈ ts.map (fun t => t.2.1.id) then assign val items m.props else m.props := by
  induction ts generalizing g with
  | nil => simp [Graph.mapRels_self]
  | cons t ts ih =>
      have hv : (v == sv) = false := by simpa using hsv
      have hrow : List.lookup v [(sv, Binding.node t.1), (v, .rel t.2.1), (dv, .node t.2.2)]
          = some (.rel t.2.1) := by simp [List.lookup_cons, hv]
      rw [List.map_cons, List.nodup_cons] at hts
      rw [List.map_cons, List.foldl_cons, setItems_rel params fn hrow hval, ih hts.2,
        Graph.mapRels_mapRels]
      congr 1
      funext m
      by_cases hm : m.id = t.2.1.id
      · simp [hm, hts.1]
      · simp only [List.map_cons, List.mem_cons, hm, if_false, false_or]

end Setting

end Cypher
