import CrazyIvan.Cypher.Token

/-!
The grammar of Cypher statements, for the fragment with one group of patterns,
one write and one projection:

    [MATCH pattern, ... [WHERE expression]]
    [CREATE pattern | SET assignment, ... | DETACH DELETE variable]
    RETURN variable, ... [ORDER BY v.p SKIP parameter LIMIT parameter]

* `Expr`, `Pattern`, `Update`, `Statement`: the syntax trees. A property map of
  a pattern gives every property by a parameter.
* `parse`: the reader, none for a text that is not a statement. Lists are read
  by structural recursion on the tokens, expressions by precedence climbing.
* `properties_entries`, `setItems_items`: how a list assembled entry by entry is
  read.
-/

namespace Cypher

/-! ### Syntax trees -/

/-- The binary operators. -/
inductive BinOp where
  | or | and | eq | lt | mem | add | sub | mul
deriving DecidableEq, Repr

/-- How tightly an operator binds. -/
def BinOp.prec : BinOp → ℕ
  | .or => 0
  | .and => 1
  | .eq | .lt | .mem => 2
  | .add | .sub => 3
  | .mul => 4

inductive Expr where
  | param (p : String)
  | var (x : String)
  | prop (x p : String)
  | num (n : ℕ)
  | nil
  | call (f : String) (e : Expr)
  | coalesce (a b : Expr)
  | bin (op : BinOp) (a b : Expr)
  | not (e : Expr)
  | label (x l : String)
  | all (x : String) (l c : Expr)
  | filter (x : String) (l c : Expr)
deriving DecidableEq, Repr

/-- A node pattern; `props` gives for each property the parameter it is compared
with or set to. -/
structure NodePat where
  var : String
  label : Option String
  props : List (String × String)
deriving DecidableEq, Repr

structure RelPat where
  var : String
  type : String
  props : List (String × String)
deriving DecidableEq, Repr

inductive Pattern where
  | node (n : NodePat)
  | edge (src : NodePat) (rel : RelPat) (dst : NodePat)
  | shortest (path src dst : String)
deriving DecidableEq, Repr

/-- One assignment of a `SET` list. -/
structure SetItem where
  var : String
  prop : String
  value : Expr
deriving DecidableEq, Repr

inductive Update where
  | none
  | create (p : Pattern)
  | set (items : List SetItem)
  | detachDelete (x : String)
deriving DecidableEq, Repr

/-- Ordering and paging of the projected rows; both bounds are parameters. -/
structure Page where
  var : String
  prop : String
  skip : String
  limit : String
deriving DecidableEq, Repr

structure Statement where
  reads : List Pattern
  cond : Option Expr
  update : Update
  ret : List String
  page : Option Page
deriving DecidableEq, Repr

/-! ### Reading patterns -/

/-- The entries of a property map, behind its opening brace. -/
def properties : List Token → Option (List (String × String) × List Token)
  | .word k :: .colon :: .lbrace :: .word p :: .rbrace :: .comma :: rest =>
      (properties rest).map fun r => ((k, p) :: r.1, r.2)
  | .word k :: .colon :: .lbrace :: .word p :: .rbrace :: .rbrace :: rest => some ([(k, p)], rest)
  | _ => none

def optProperties : List Token → Option (List (String × String) × List Token)
  | .lbrace :: rest => properties rest
  | rest => some ([], rest)

/-- A node pattern, behind its opening parenthesis. -/
def nodePat : List Token → Option (NodePat × List Token)
  | .word v :: .colon :: .word l :: rest =>
      (optProperties rest).bind fun
        | (ps, .rparen :: rest) => some (⟨v, some l, ps⟩, rest)
        | _ => none
  | .word v :: .rparen :: rest => some (⟨v, none, []⟩, rest)
  | _ => none

/-- A relationship pattern with its right end, behind the left end. -/
def relPat : List Token → Option ((RelPat × NodePat) × List Token)
  | .minus :: .lbrack :: .word v :: .colon :: .word t :: rest =>
      (optProperties rest).bind fun
        | (ps, .rbrack :: .minus :: .gt :: .lparen :: rest) =>
            (nodePat rest).map fun d => ((⟨v, t, ps⟩, d.1), d.2)
        | _ => none
  | _ => none

def pattern : List Token → Option (Pattern × List Token)
  | .word p :: .eq :: .word "shortestPath" :: .lparen :: .lparen :: .word a :: .rparen ::
      .minus :: .lbrack :: .word _ :: .star :: .rbrack :: .minus ::
      .lparen :: .word b :: .rparen :: .rparen :: rest => some (.shortest p a b, rest)
  | .lparen :: rest =>
      (nodePat rest).bind fun
        | (s, .minus :: rest) =>
            (relPat (.minus :: rest)).map fun r => (.edge s r.1.1 r.1.2, r.2)
        | (s, rest) => some (.node s, rest)
  | _ => none

/-- Comma separated patterns; the fuel bounds their number. -/
def patterns : ℕ → List Token → Option (List Pattern × List Token)
  | 0, _ => none
  | n + 1, toks =>
      (pattern toks).bind fun
        | (p, .comma :: rest) => (patterns n rest).map fun r => (p :: r.1, r.2)
        | (p, rest) => some ([p], rest)

/-! ### Reading expressions -/

/-- The value of a numeral. -/
def numeral (w : String) : Option ℕ :=
  if w.toList.all Char.isDigit then
    some (w.toList.foldl (fun n c => 10 * n + (c.toNat - 48)) 0)
  else none

def binOp : List Token → Option (BinOp × List Token)
  | .word "OR" :: rest => some (.or, rest)
  | .word "AND" :: rest => some (.and, rest)
  | .word "IN" :: rest => some (.mem, rest)
  | .word "in" :: rest => some (.mem, rest)
  | .eq :: rest => some (.eq, rest)
  | .lt :: rest => some (.lt, rest)
  | .plus :: rest => some (.add, rest)
  | .minus :: rest => some (.sub, rest)
  | .star :: rest => some (.mul, rest)
  | _ => none

mutual

/-- An operand. -/
def operand : ℕ → List Token → Option (Expr × List Token)
  | 0, _ => none
  | _ + 1, .lbrace :: .word p :: .rbrace :: rest => some (.param p, rest)
  | _ + 1, .lbrack :: .rbrack :: rest => some (.nil, rest)
  | _ + 1, .lparen :: .word x :: .colon :: .word l :: .rparen :: rest => some (.label x l, rest)
  | n + 1, .lparen :: rest =>
      (expression n 0 rest).bind fun
        | (e, .rparen :: rest) => some (e, rest)
        | _ => none
  | n + 1, .word "NOT" :: rest => (operand n rest).map fun r => (.not r.1, r.2)
  | n + 1, .word "ALL" :: .lparen :: .word x :: rest =>
      (comprehension n rest).map fun r => (.all x r.1.1 r.1.2, r.2)
  | n + 1, .word "FILTER" :: .lparen :: .word x :: rest =>
      (comprehension n rest).map fun r => (.filter x r.1.1 r.1.2, r.2)
  | n + 1, .word "coalesce" :: .lparen :: rest =>
      (expression n 0 rest).bind fun
        | (a, .comma :: rest) =>
            (expression n 0 rest).bind fun
              | (b, .rparen :: rest) => some (.coalesce a b, rest)
              | _ => none
        | _ => none
  | n + 1, .word f :: .lparen :: rest =>
      (expression n 0 rest).bind fun
        | (e, .rparen :: rest) => some (.call f e, rest)
        | _ => none
  | _ + 1, .word x :: .dot :: .word p :: rest => some (.prop x p, rest)
  | _ + 1, .word w :: rest =>
      some ((match numeral w with | some n => .num n | none => .var w), rest)
  | _ + 1, _ => none

/-- The `IN list WHERE condition)` of `ALL` and `FILTER`. -/
def comprehension : ℕ → List Token → Option ((Expr × Expr) × List Token)
  | 0, _ => none
  | n + 1, toks =>
      ((match toks with
        | .word "IN" :: rest => some rest
        | .word "in" :: rest => some rest
        | _ => none).bind fun rest =>
        (expression n 0 rest).bind fun
          | (l, .word "WHERE" :: rest) =>
              (expression n 0 rest).bind fun
                | (c, .rparen :: rest) => some ((l, c), rest)
                | _ => none
          | _ => none)

/-- An expression of operators that bind at least as tightly as the bound. -/
def expression : ℕ → ℕ → List Token → Option (Expr × List Token)
  | 0, _, _ => none
  | n + 1, bound, toks => (operand n toks).bind fun r => climb n bound r.1 r.2

/-- The operators and operands behind a left operand. -/
def climb : ℕ → ℕ → Expr → List Token → Option (Expr × List Token)
  | 0, _, _, _ => none
  | n + 1, bound, a, toks =>
      match binOp toks with
      | none => some (a, toks)
      | some (op, rest) =>
          if bound ≤ op.prec then
            (expression n (op.prec + 1) rest).bind fun r => climb n bound (.bin op a r.1) r.2
          else some (a, toks)

end

/-! ### Reading statements -/

/-- Comma separated assignments; the fuel bounds their number. -/
def setItems (depth : ℕ) : ℕ → List Token → Option (List SetItem × List Token)
  | n + 1, .word v :: .dot :: .word p :: .eq :: rest =>
      (expression depth 0 rest).bind fun
        | (e, .comma :: rest) => (setItems depth n rest).map fun r => (⟨v, p, e⟩ :: r.1, r.2)
        | (e, rest) => some ([⟨v, p, e⟩], rest)
  | _, _ => none

def matchPart (n : ℕ) : List Token → Option ((List Pattern × Option Expr) × List Token)
  | .word "MATCH" :: rest =>
      (patterns n rest).bind fun
        | (ps, .word "WHERE" :: rest) =>
            (expression n 0 rest).map fun r => ((ps, some r.1), r.2)
        | (ps, rest) => some ((ps, none), rest)
  | rest => some (([], none), rest)

lemma matchPart_create (n : ℕ) (toks : List Token) :
    matchPart n (.word "CREATE" :: toks) = some (([], none), .word "CREATE" :: toks) := by
  simp [matchPart]

def updatePart (n : ℕ) : List Token → Option (Update × List Token)
  | .word "CREATE" :: rest => (pattern rest).map fun r => (.create r.1, r.2)
  | .word "SET" :: rest => (setItems n n rest).map fun r => (.set r.1, r.2)
  | .word "DETACH" :: .word "DELETE" :: .word x :: rest => some (.detachDelete x, rest)
  | rest => some (.none, rest)

def columns : List Token → Option (List String × List Token)
  | .word x :: .comma :: rest => (columns rest).map fun r => (x :: r.1, r.2)
  | .word x :: rest => some ([x], rest)
  | _ => none

def returnPart : List Token → Option ((List String × Option Page) × List Token)
  | .word "RETURN" :: rest =>
      (columns rest).bind fun
        | (xs, .word "ORDER" :: .word "BY" :: .word v :: .dot :: .word p ::
            .word "SKIP" :: .lbrace :: .word s :: .rbrace ::
            .word "LIMIT" :: .lbrace :: .word l :: .rbrace :: rest) =>
              some ((xs, some ⟨v, p, s, l⟩), rest)
        | (xs, rest) => some ((xs, none), rest)
  | _ => none

/-- The statement a text is, if it is one; every token has to be used. -/
def parse (toks : List Token) : Option Statement :=
  (matchPart (toks.length + 1) toks).bind fun m =>
    (updatePart (toks.length + 1) m.2).bind fun u =>
      (returnPart u.2).bind fun
        | (r, []) => some ⟨m.1.1, m.1.2, u.1, r.1, r.2⟩
        | _ => none

example : parse (lex "MATCH (s:Scene {key: {k}})-[t:TRANSFORM]->(d:UserDevice) RETURN d") =
    some ⟨[.edge ⟨"s", some "Scene", [("key", "k")]⟩ ⟨"t", "TRANSFORM", []⟩
      ⟨"d", some "UserDevice", []⟩], none, .none, ["d"], none⟩ := by rfl

/-! ### Lists assembled entry by entry -/

/-- The tokens of an entry of a property map. -/
def entryToks (e : String × String) : List Token :=
  [.word e.1, .colon, .lbrace, .word e.2, .rbrace]

/-- The tokens of further entries. -/
def moreEntries (es : List (String × String)) : List Token :=
  es.flatMap fun e => .comma :: entryToks e

lemma moreEntries_append (es es' : List (String × String)) :
    moreEntries (es ++ es') = moreEntries es ++ moreEntries es' := List.flatMap_append

/-- A property map is read entry by entry. -/
lemma properties_entries (e : String × String) (es : List (String × String))
    (rest : List Token) :
    properties (entryToks e ++ (moreEntries es ++ .rbrace :: rest)) = some (e :: es, rest) := by
  induction es generalizing e with
  | nil => simp [properties, entryToks, moreEntries]
  | cons e' es ih =>
      have h := ih e'
      simp only [entryToks, moreEntries, List.cons_append, List.nil_append,
        List.flatMap_cons] at h ⊢
      rw [properties, h]
      rfl

/-- A text is read as an expression, in front of anything that does not go on
with an operator. -/
def Reads (depth : ℕ) (toks : List Token) (e : Expr) : Prop :=
  ∀ rest, binOp rest = none → expression depth 0 (toks ++ rest) = some (e, rest)

/-- The tokens of an assignment, given those of its value. -/
def itemToks (it : SetItem × List Token) : List Token :=
  .word it.1.var :: .dot :: .word it.1.prop :: .eq :: it.2

/-- The tokens of further assignments. -/
def moreItems (its : List (SetItem × List Token)) : List Token :=
  its.flatMap fun it => .comma :: itemToks it

lemma moreItems_append (its its' : List (SetItem × List Token)) :
    moreItems (its ++ its') = moreItems its ++ moreItems its' := List.flatMap_append

/-- An assignment list is read entry by entry. -/
lemma setItems_items {depth : ℕ} (it : SetItem × List Token) (its : List (SetItem × List Token))
    (hreads : ∀ i ∈ it :: its, Reads depth i.2 i.1.value) {w : String} {rest : List Token}
    (hw : binOp (.word w :: rest) = none) {n : ℕ} (hn : its.length < n) :
    setItems depth n (itemToks it ++ (moreItems its ++ .word w :: rest))
      = some ((it :: its).map Prod.fst, .word w :: rest) := by
  induction its generalizing it n with
  | nil =>
      obtain ⟨n, rfl⟩ := Nat.exists_eq_succ_of_ne_zero (by omega : n ≠ 0)
      have h := hreads it (by simp) (.word w :: rest) hw
      simp only [itemToks, moreItems, List.flatMap_nil, List.cons_append, List.nil_append]
      rw [setItems, h]
      rfl
  | cons it' its ih =>
      obtain ⟨n, rfl⟩ := Nat.exists_eq_succ_of_ne_zero (by omega : n ≠ 0)
      have hlen : its.length < n := by
        simp only [List.length_cons] at hn
        omega
      have hrest := ih it' (fun i hi => hreads i (List.mem_cons_of_mem _ hi)) hlen
      have h := hreads it (by simp)
        (.comma :: (itemToks it' ++ (moreItems its ++ .word w :: rest))) rfl
      simp only [itemToks, moreItems, List.flatMap_cons, List.cons_append,
        List.append_assoc] at hrest h ⊢
      rw [setItems, h]
      simp only [Option.bind_some, hrest, Option.map_some, List.map_cons]

/-! ### Rules of the expression reader -/

section Rules

attribute [local simp] operand expression climb comprehension

lemma expression_of_operand {n b : ℕ} {toks rest : List Token} {a : Expr}
    (h : operand n toks = some (a, rest)) : expression (n + 1) b toks = climb n b a rest := by
  simp [expression, h]

lemma climb_stop {n b : ℕ} {a : Expr} {toks : List Token} (h : binOp toks = none) :
    climb (n + 1) b a toks = some (a, toks) := by
  simp [climb, h]

lemma climb_op {n b : ℕ} {a e : Expr} {toks rest rest' : List Token} {op : BinOp}
    (h : binOp toks = some (op, rest)) (hb : b ≤ op.prec)
    (he : expression n (op.prec + 1) rest = some (e, rest')) :
    climb (n + 1) b a toks = climb n b (.bin op a e) rest' := by
  simp [climb, h, hb, he]

lemma operand_param (n : ℕ) (p : String) (rest : List Token) :
    operand (n + 1) (.lbrace :: .word p :: .rbrace :: rest) = some (.param p, rest) := by
  simp [operand]

lemma operand_nil (n : ℕ) (rest : List Token) :
    operand (n + 1) (.lbrack :: .rbrack :: rest) = some (.nil, rest) := by
  simp [operand]

lemma operand_prop (n : ℕ) {x : String} (hx : x ≠ "NOT") (p : String) (rest : List Token) :
    operand (n + 1) (.word x :: .dot :: .word p :: rest) = some (.prop x p, rest) := by
  simp [operand]

/-- A variable in front of a word. -/
lemma operand_var (n : ℕ) {x : String} (hx : x ≠ "NOT") (hnum : numeral x = none) (w : String)
    (rest : List Token) :
    operand (n + 1) (.word x :: .word w :: rest) = some (.var x, .word w :: rest) := by
  simp [operand, hnum]

/-- A parenthesis that is not a label test. -/
lemma operand_paren {n : ℕ} {toks rest : List Token} {e : Expr}
    (hlabel : ∀ x l rest', toks = .word x :: .colon :: .word l :: .rparen :: rest' → False)
    (h : expression n 0 toks = some (e, .rparen :: rest)) :
    operand (n + 1) (.lparen :: toks) = some (e, rest) := by
  rw [operand.eq_5 _ _ hlabel, h]
  rfl

lemma operand_not {n : ℕ} {toks rest : List Token} {e : Expr}
    (h : operand n toks = some (e, rest)) :
    operand (n + 1) (.word "NOT" :: toks) = some (.not e, rest) := by
  simp [operand, h]

lemma operand_coalesce {n : ℕ} {toks toks' rest : List Token} {a b : Expr}
    (ha : expression n 0 toks = some (a, .comma :: toks'))
    (hb : expression n 0 toks' = some (b, .rparen :: rest)) :
    operand (n + 1) (.word "coalesce" :: .lparen :: toks) = some (.coalesce a b, rest) := by
  simp [operand, ha, hb]

lemma operand_filter {n : ℕ} {x : String} {toks toks' rest : List Token} {l c : Expr}
    (hl : expression n 0 toks = some (l, .word "WHERE" :: toks'))
    (hc : expression n 0 toks' = some (c, .rparen :: rest)) :
    operand (n + 1 + 1) (.word "FILTER" :: .lparen :: .word x :: .word "IN" :: toks)
      = some (.filter x l c, rest) := by
  rw [operand]
  simp [comprehension, hl, hc]

end Rules

/-! ### The values of an assignment -/

lemma reads_param (depth : ℕ) (p : String) :
    Reads (depth + 2) [.lbrace, .word p, .rbrace] (.param p) := by
  intro rest hrest
  simp only [List.cons_append, List.nil_append]
  rw [expression_of_operand (operand_param depth p rest), climb_stop hrest]

/-- Appending a parameter to a list property that may be missing. -/
def appendExpr (x p q : String) : Expr := .bin .add (.coalesce (.prop x p) .nil) (.param q)

/-- Removing the entries of a parameter from a list property. -/
def removeExpr (a x p q : String) : Expr :=
  .filter a (.prop x p) (.not (.bin .mem (.var a) (.param q)))

lemma reads_append (depth : ℕ) {x : String} (hx : x ≠ "NOT") (p q : String) :
    Reads (depth + 4) [.word "coalesce", .lparen, .word x, .dot, .word p, .comma, .lbrack,
      .rbrack, .rparen, .plus, .lbrace, .word q, .rbrace] (appendExpr x p q) := by
  intro rest hrest
  have hlist : ∀ toks, expression (depth + 2) 0
      (.word x :: .dot :: .word p :: .comma :: toks) = some (.prop x p, .comma :: toks) :=
    fun toks => by rw [expression_of_operand (operand_prop depth hx p _), climb_stop rfl]
  have hnil : ∀ toks, expression (depth + 2) 0 (.lbrack :: .rbrack :: .rparen :: toks)
      = some (.nil, .rparen :: toks) :=
    fun toks => by rw [expression_of_operand (operand_nil depth _), climb_stop rfl]
  have hadd : expression (depth + 2) 4 (.lbrace :: .word q :: .rbrace :: rest)
      = some (.param q, rest) := by
    rw [expression_of_operand (operand_param depth q rest), climb_stop hrest]
  simp only [List.cons_append, List.nil_append]
  rw [expression_of_operand (operand_coalesce (hlist _) (hnil _)),
    climb_op rfl (Nat.zero_le _) hadd, climb_stop hrest]
  rfl

lemma reads_remove (depth : ℕ) {a x : String} (ha : a ≠ "NOT") (hnum : numeral a = none)
    (hx : x ≠ "NOT") (p q : String) :
    Reads (depth + 10) [.word "FILTER", .lparen, .word a, .word "IN", .word x, .dot, .word p,
      .word "WHERE", .word "NOT", .lparen, .word a, .word "IN", .lbrace, .word q, .rbrace,
      .rparen, .rparen] (removeExpr a x p q) := by
  intro rest hrest
  have hlist : ∀ toks, expression (depth + 7) 0
      (.word x :: .dot :: .word p :: .word "WHERE" :: toks)
        = some (.prop x p, .word "WHERE" :: toks) :=
    fun toks => by rw [expression_of_operand (operand_prop (depth + 5) hx p _), climb_stop rfl]
  have hparam : ∀ toks, expression (depth + 2) 3
      (.lbrace :: .word q :: .rbrace :: .rparen :: toks) = some (.param q, .rparen :: toks) :=
    fun toks => by rw [expression_of_operand (operand_param depth q _), climb_stop rfl]
  have hin : ∀ toks, expression (depth + 4) 0
      (.word a :: .word "IN" :: .lbrace :: .word q :: .rbrace :: .rparen :: toks)
        = some (.bin .mem (.var a) (.param q), .rparen :: toks) := fun toks => by
    rw [expression_of_operand (operand_var (depth + 2) ha hnum "IN" _),
      climb_op rfl (Nat.zero_le _) (hparam toks), climb_stop rfl]
  have hnot : ∀ toks, expression (depth + 7) 0
      (.word "NOT" :: .lparen :: .word a :: .word "IN" :: .lbrace :: .word q :: .rbrace ::
        .rparen :: .rparen :: toks)
        = some (.not (.bin .mem (.var a) (.param q)), .rparen :: toks) := fun toks => by
    rw [expression_of_operand (operand_not (operand_paren (by simp) (hin _))), climb_stop rfl]
  simp only [List.cons_append, List.nil_append]
  rw [expression_of_operand (operand_filter (hlist _) (hnot _)), climb_stop hrest]
  rfl

end Cypher
