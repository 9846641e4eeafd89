import CrazyIvan.Cypher.Graph
import CrazyIvan.Cypher.Grammar
import Mathlib.Data.List.Lex
import Mathlib.Data.Prod.Lex
import Mathlib.Data.String.Basic
import Mathlib.Data.Bool.Basic

/-!
What a Cypher statement does to a property graph and which rows it returns.

A row binds the variables of a statement. `MATCH` extends rows, `WHERE` keeps
the rows whose condition is true (not null), the write of a statement is done
once for each row, `RETURN` projects. A statement that mentions a parameter it
was not given, or pages by a negative number, is an error and does nothing;
neither does a text that is not a statement.

* `Expr.eval`: expressions, with null as `none` and the three-valued `AND` and
  `OR`.
* `matchPattern`, `Update.apply`, `Statement.run`: the clauses.
* `answer`: a text with its parameters against a graph.
-/

namespace Cypher

/-- A path: its first node, and each step with the relationship, whether it is
walked forwards, and the node it leads to. -/
structure Path (R : Type) where
  start : Node R
  steps : List (Rel R × Bool × Node R)

/-- What a variable stands for. -/
inductive Binding (R : Type) where
  | node (n : Node R)
  | rel (r : Rel R)
  | path (p : Path R)
  | value (v : Value R)

abbrev Row (R : Type) := List (String × Binding R)

/-- The parameters of a statement; the first entry of a name counts. -/
abbrev Params (R : Type) := List (String × Value R)

variable {R : Type}

/-- The nodes a path visits. -/
def Path.nodes (p : Path R) : List (Node R) := p.start :: p.steps.map fun st => st.2.2

variable [Field R] [LinearOrder R]

/-! ### Expressions -/

def Value.toNum : Value R → Option R
  | .num x => some x
  | .int n => some (n : R)
  | _ => none

def Value.isTrue (v : Option (Value R)) : Bool := v = some (.bool true)

/-- The binary operators; `none` is null. -/
def BinOp.eval : BinOp → Option (Value R) → Option (Value R) → Option (Value R)
  | .or, some (.bool true), _ => some (.bool true)
  | .or, _, some (.bool true) => some (.bool true)
  | .or, some (.bool false), some (.bool false) => some (.bool false)
  | .and, some (.bool false), _ => some (.bool false)
  | .and, _, some (.bool false) => some (.bool false)
  | .and, some (.bool true), some (.bool true) => some (.bool true)
  | .eq, some a, some b => some (.bool (a = b))
  | .lt, some a, some b =>
      (a.toNum).bind fun x => (b.toNum).map fun y => .bool (x < y)
  | .mem, some (.str s), some (.strs l) => some (.bool (s ∈ l))
  | .add, some (.strs l), some (.strs m) => some (.strs (l ++ m))
  | .add, some a, some b => (a.toNum).bind fun x => (b.toNum).map fun y => .num (x + y)
  | .sub, some a, some b => (a.toNum).bind fun x => (b.toNum).map fun y => .num (x - y)
  | .mul, some a, some b => (a.toNum).bind fun x => (b.toNum).map fun y => .num (x * y)
  | _, _, _ => none

/-- The nodes of a path, where an expression is `nodes(p)`. -/
def pathNodes (row : Row R) : Expr → Option (List (Node R))
  | .call "nodes" (.var x) =>
      match row.lookup x with
      | some (.path p) => some p.nodes
      | _ => none
  | _ => none

section Eval

variable (fn : String → R → R) (params : Params R)

/-- The value of an expression in a row; `fn` are the numeric functions. -/
def Expr.eval : Expr → Row R → Option (Value R)
  | .param p, _ => params.lookup p
  | .var x, row =>
      match row.lookup x with
      | some (.value v) => some v
      | _ => none
  | .prop x p, row =>
      match row.lookup x with
      | some (.node n) => n.props p
      | some (.rel r) => r.props p
      | _ => none
  | .num n, _ => some (.num (n : R))
  | .nil, _ => some (.strs [])
  | .call f e, row => ((e.eval row).bind Value.toNum).map fun x => .num (fn f x)
  | .coalesce a b, row => (a.eval row).or (b.eval row)
  | .bin op a b, row => op.eval (a.eval row) (b.eval row)
  | .not e, row =>
      match e.eval row with
      | some (.bool b) => some (.bool !b)
      | _ => none
  | .label x l, row =>
      match row.lookup x with
      | some (.node n) => some (.bool (n.label = l))
      | _ => none
  | .all x l c, row =>
      match pathNodes row l with
      | some ns => some (.bool (ns.all fun n => Value.isTrue (c.eval ((x, .node n) :: row))))
      | none =>
          match l.eval row with
          | some (.strs ss) =>
              some (.bool (ss.all fun s =>
                Value.isTrue (c.eval ((x, .value (.str s)) :: row))))
          | _ => none
  | .filter x l c, row =>
      match l.eval row with
      | some (.strs ss) =>
          some (.strs (ss.filter fun s =>
            Value.isTrue (c.eval ((x, .value (.str s)) :: row))))
      | _ => none

/-- The rows a condition keeps are those where it is true. -/
def holds (cond : Option Expr) (row : Row R) : Bool :=
  cond.all fun c => Value.isTrue (c.eval fn params row)

/-! ### Matching -/

/-- A property map of a pattern holds of some properties. -/
def matchProps (ps : List (String × String)) (props : Props R) : Bool :=
  ps.all fun e => match params.lookup e.2 with
    | some v => props e.1 = some v
    | none => false

def NodePat.fits (p : NodePat) (n : Node R) : Bool :=
  (p.label.all fun l => n.label = l) && matchProps params p.props n.props

def RelPat.fits (p : RelPat) (r : Rel R) : Bool :=
  decide (r.type = p.type) && matchProps params p.props r.props

/-- The steps out of a node, along either direction of a relationship. -/
def Graph.stepsFrom (g : Graph R) (n : Node R) : List (Rel R × Bool × Node R) :=
  (g.triples.filter fun t => t.1.id = n.id).map (fun t => (t.2.1, true, t.2.2)) ++
    (g.triples.filter fun t => t.2.2.id = n.id).map fun t => (t.2.1, false, t.1)

/-- The walks of a given length out of a node. -/
def Graph.walks (g : Graph R) : ℕ → Node R → List (List (Rel R × Bool × Node R))
  | 0, _ => [[]]
  | k + 1, n => (g.stepsFrom n).flatMap fun st => (g.walks k st.2.2).map (st :: ·)

/-- The paths between two nodes, short ones first. -/
def Graph.paths (g : Graph R) (a b : Node R) : List (Path R) :=
  (List.range g.nodes.length).flatMap fun k =>
    ((g.walks (k + 1) a).filter fun w => (w.getLast?.map fun st => st.2.2.id) = some b.id).map
      fun w => ⟨a, w⟩

/-- The extensions of a row by a pattern. A shortest path is searched for under
the condition of the statement. -/
def matchPattern (cond : Option Expr) (g : Graph R) (row : Row R) : Pattern → List (Row R)
  | .node p => (g.nodes.filter (p.fits params)).map fun n => row ++ [(p.var, .node n)]
  | .edge s r d =>
      (g.triples.filter fun t =>
        s.fits params t.1 && r.fits params t.2.1 && d.fits params t.2.2).map fun t =>
          row ++ [(s.var, .node t.1), (r.var, .rel t.2.1), (d.var, .node t.2.2)]
  | .shortest p a b =>
      match row.lookup a, row.lookup b with
      | some (.node x), some (.node y) =>
          (((g.paths x y).map fun w => row ++ [(p, .path w)]).find? (holds fn params cond)).toList
      | _, _ => []

/-- The rows of a `MATCH ... WHERE`; without patterns there is one empty row. -/
def matchRows (pats : List Pattern) (cond : Option Expr) (g : Graph R) : List (Row R) :=
  (pats.foldl (fun rows p => rows.flatMap fun row => matchPattern fn params cond g row p)
    [[]]).filter (holds fn params cond)

/-! ### Writing -/

/-- The properties a pattern creates. -/
def mkProps (ps : List (String × String)) : Props R :=
  fun k => (ps.lookup k).bind fun p => params.lookup p

/-- The node a `CREATE` pattern names: the bound one, else a new one. -/
def bindEnd (p : NodePat) (row : Row R) (g : Graph R) : Node R × Row R × Graph R :=
  match row.lookup p.var with
  | some (.node n) => (n, row, g)
  | _ =>
      let label := p.label.getD ""
      let props := mkProps params p.props
      (g.newNode label props, row ++ [(p.var, .node (g.newNode label props))],
        g.addNode label props)

/-- One row of a `CREATE`. -/
def createPattern (p : Pattern) (row : Row R) (g : Graph R) : Row R × Graph R :=
  match p with
  | .node p => (bindEnd params p row g).2
  | .edge s r d =>
      let (ns, row, g) := bindEnd params s row g
      let (nd, row, g) := bindEnd params d row g
      let props := mkProps params r.props
      (row ++ [(r.var, .rel (g.newRel r.type ns.id nd.id props))],
        g.addRel r.type ns.id nd.id props)
  | .shortest _ _ _ => (row, g)

def createAll (p : Pattern) : List (Row R) → Graph R → List (Row R) × Graph R
  | [], g => ([], g)
  | row :: rows, g =>
      let (row, g) := createPattern params p row g
      let (rows, g) := createAll p rows g
      (row :: rows, g)

/-- One assignment in one row; the value may read the entity it is set on. -/
def setItem (row : Row R) (g : Graph R) (it : SetItem) : Graph R :=
  match row.lookup it.var with
  | some (.node n) =>
      g.mapNodes fun m =>
        if m.id = n.id then
          Function.update m.props it.prop (it.value.eval fn params ((it.var, .node m) :: row))
        else m.props
  | some (.rel r) =>
      g.mapRels fun m =>
        if m.id = r.id then
          Function.update m.props it.prop (it.value.eval fn params ((it.var, .rel m) :: row))
        else m.props
  | _ => g

/-- The entity a variable stands for, as it is in the graph now. -/
def refresh (g : Graph R) : Binding R → Binding R
  | .node n => .node ((g.node? n.id).getD n)
  | .rel r => .rel ((g.rel? r.id).getD r)
  | b => b

/-- The id of the node a variable is bound to. -/
def nodeId (x : String) (row : Row R) : Option ℕ :=
  match row.lookup x with
  | some (.node n) => some n.id
  | _ => none

/-- The write of a statement, over its rows. -/
def Update.apply (rows : List (Row R)) (g : Graph R) : Update → List (Row R) × Graph R
  | .none => (rows, g)
  | .create p => createAll params p rows g
  | .set items =>
      let g' := rows.foldl (fun g row => items.foldl (setItem fn params row) g) g
      (rows.map fun row => row.map fun b => (b.1, refresh g' b.2), g')
  | .detachDelete x => (rows, g.detachDelete (rows.filterMap (nodeId x)))

end Eval

/-! ### Statements -/

/-- The parameters an expression mentions. -/
def Expr.params : Expr → List String
  | .param p => [p]
  | .call _ e => e.params
  | .not e => e.params
  | .coalesce a b | .bin _ a b | .all _ a b | .filter _ a b => a.params ++ b.params
  | _ => []

def Pattern.params : Pattern → List String
  | .node n => n.props.map Prod.snd
  | .edge s r d => s.props.map Prod.snd ++ r.props.map Prod.snd ++ d.props.map Prod.snd
  | .shortest _ _ _ => []

def Update.params : Update → List String
  | .create p => p.params
  | .set items => items.flatMap fun it => it.value.params
  | _ => []

/-- The parameters a statement mentions. -/
def Statement.params (st : Statement) : List String :=
  st.reads.flatMap Pattern.params ++ (st.cond.map Expr.params).getD [] ++ st.update.params ++
    (st.page.map fun p => [p.skip, p.limit]).getD []

/-- The place of a value in the order of `ORDER BY`: lists, strings, booleans, numbers,
and null last. -/
def orderKey : Option (Value R) → ℕ ×ₗ List String ×ₗ Bool ×ₗ R
  | some (.strs l) => toLex (0, toLex (l, toLex (false, 0)))
  | some (.str s) => toLex (1, toLex ([s], toLex (false, 0)))
  | some (.bool b) => toLex (2, toLex ([], toLex (b, 0)))
  | some (.int n) => toLex (3, toLex ([], toLex (false, (n : R))))
  | some (.num x) => toLex (3, toLex ([], toLex (false, x)))
  | none => toLex (4, toLex ([], toLex (false, 0)))

def keyLe (a b : Option (Value R)) : Bool := decide (orderKey a ≤ orderKey b)

/-- Ordering and paging of the rows. -/
def Page.apply (params : Params R) (p : Page) (rows : List (Row R)) :
    Except String (List (Row R)) :=
  match params.lookup p.skip, params.lookup p.limit with
  | some (.int s), some (.int l) =>
      if s < 0 ∨ l < 0 then .error "SKIP and LIMIT must be non-negative integers"
      else
        let key := fun row : Row R => match row.lookup p.var with
          | some (.node n) => n.props p.prop
          | _ => none
        .ok (((rows.insertionSort fun a b => keyLe (key a) (key b)).drop s.toNat).take l.toNat)
  | _, _ => .error "SKIP and LIMIT must be integers"

/-- The columns of a row. -/
def project (cols : List String) (row : Row R) : List (Binding R) :=
  cols.filterMap fun x => row.lookup x

/-- A statement against a graph: the rows it returns and the graph after it. -/
def Statement.run (fn : String → R → R) (st : Statement) (params : Params R) (g : Graph R) :
    Except String (List (List (Binding R)) × Graph R) :=
  match st.params.find? fun p => (params.lookup p).isNone with
  | some p => .error ("Expected a parameter named " ++ p)
  | none =>
      let res := st.update.apply fn params (matchRows fn params st.reads st.cond g) g
      match st.page with
      | none => .ok (res.1.map (project st.ret), res.2)
      | some p => (p.apply params res.1).map fun rows => (rows.map (project st.ret), res.2)

/-- What a driver hands back for a statement. -/
inductive Answer (R : Type) where
  | rows (l : List (List (Binding R)))
  | null
  | throw (what : String)

/-- A text with its parameters against a graph. A text that is no statement, and
a statement that fails, leave the graph as it is. -/
def answer (fn : String → R → R) (text : String) (params : Params R) (g : Graph R) :
    Answer R × Graph R :=
  match parse (lex text) with
  | none => (.throw "Invalid input", g)
  | some st =>
      match st.run fn params g with
      | .error e => (.throw e, g)
      | .ok (rows, g') => (.rows rows, g')

end Cypher
