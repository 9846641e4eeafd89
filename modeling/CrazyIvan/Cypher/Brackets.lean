import CrazyIvan.Cypher.Grammar

/-!
What can be read off the tokens of a text without parsing it.

* `placeholders`: the names that stand alone between braces.
* `closing`, `WellBracketed`: brackets of three kinds are opened and closed in turn;
  `Closed` is the rule by which a fragment that closes what it opens is skipped.
* `CommasSeparate`: a comma stands between two elements of a list, neither in
  front of the first nor behind the last nor next to another comma.
-/

namespace Cypher

/-! ### Placeholders -/

/-- The parameters a text names. -/
def placeholders : List Token → List String
  | .lbrace :: .word w :: .rbrace :: toks => w :: placeholders toks
  | _ :: toks => placeholders toks
  | [] => []

example : placeholders (lex "(scn:Scene {key: {inp_key}, user: {inp_user}}) SKIP {inp_skip}")
    = ["inp_key", "inp_user", "inp_skip"] := by decide

lemma placeholders_moreEntries (es : List (String × String)) (toks : List Token) :
    placeholders (moreEntries es ++ toks) = es.map Prod.snd ++ placeholders toks := by
  induction es with
  | nil => rfl
  | cons e es ih =>
      rw [moreEntries, List.flatMap_cons, List.append_assoc, ← moreEntries]
      show e.2 :: placeholders (moreEntries es ++ toks) = _
      rw [ih]
      rfl

/-! ### Brackets -/

/-- The bracket that closes an opening one. -/
def Token.closer : Token → Option Token
  | .lparen => some .rparen
  | .lbrace => some .rbrace
  | .lbrack => some .rbrack
  | _ => none

/-- The closing brackets. -/
def Token.Closes (t : Token) : Prop := t = .rparen ∨ t = .rbrace ∨ t = .rbrack

instance (t : Token) : Decidable t.Closes := inferInstanceAs (Decidable (_ ∨ _))

/-- The closing brackets still expected behind a text, innermost first; none if
a bracket is closed that was not opened. -/
def closing : List Token → List Token → Option (List Token)
  | [], st => some st
  | t :: toks, st =>
      match t.closer with
      | some c => closing toks (c :: st)
      | none =>
          if t.Closes then
            match st with
            | c :: st => if c = t then closing toks st else none
            | [] => none
          else closing toks st

/-- Every bracket that is opened is closed, and no other. -/
def WellBracketed (toks : List Token) : Prop := closing toks [] = some []

instance (toks : List Token) : Decidable (WellBracketed toks) := inferInstanceAs (Decidable (_ = _))

/-- A fragment that closes what it opens, whatever is open around it. -/
def Closed (toks : List Token) : Prop :=
  ∀ rest st, closing (toks ++ rest) st = closing rest st

namespace Closed

lemma nil : Closed [] := fun _ _ => rfl

lemma append {a b : List Token} (ha : Closed a) (hb : Closed b) : Closed (a ++ b) := by
  intro rest st
  rw [List.append_assoc, ha, hb]

lemma flatMap {α : Type} {f : α → List Token} {l : List α} (h : ∀ a ∈ l, Closed (f a)) :
    Closed (l.flatMap f) := by
  induction l with
  | nil => exact nil
  | cons a l ih =>
      rw [List.flatMap_cons]
      exact (h a (by simp)).append (ih fun b hb => h b (by simp [hb]))

lemma word (w : String) {toks : List Token} (h : Closed toks) : Closed (.word w :: toks) :=
  fun rest st => h rest st

/-- What stands between two braces. -/
lemma brace {toks : List Token} (h : Closed toks) : Closed (.lbrace :: (toks ++ [.rbrace])) := by
  intro rest st
  show closing ((toks ++ [.rbrace]) ++ rest) (.rbrace :: st) = closing rest st
  rw [List.append_assoc, h]
  rfl

lemma entryToks (e : String × String) : Closed (Cypher.entryToks e) := fun _ _ => rfl

lemma moreEntries (es : List (String × String)) : Closed (Cypher.moreEntries es) :=
  flatMap fun _ _ _ _ => rfl

end Closed

/-! ### Commas -/

/-- The words that open a clause or stand between two. -/
def keywords : List String :=
  ["CREATE", "MATCH", "SET", "WHERE", "AND", "RETURN", "ORDER", "BY", "SKIP", "LIMIT"]

/-- An element of a list can end in this token. -/
def Token.EndsElement (t : Token) : Prop :=
  t.Closes ∨ match t with
    | .word w => w ∉ keywords
    | _ => False

/-- An element of a list can start with this token. -/
def Token.StartsElement (t : Token) : Prop :=
  t.closer.isSome ∨ match t with
    | .word w => w ∉ keywords
    | _ => False

instance (t : Token) : Decidable t.EndsElement := by
  unfold Token.EndsElement
  cases t <;> infer_instance

instance (t : Token) : Decidable t.StartsElement := by
  unfold Token.StartsElement
  cases t <;> infer_instance

/-- Behind a token, every comma has an element on either side. -/
def SeparateAfter : Token → List Token → Prop
  | t, [] => t ≠ .comma
  | t, t' :: toks =>
      (t' = .comma → t.EndsElement) ∧ (t = .comma → t'.StartsElement) ∧ SeparateAfter t' toks

instance : ∀ t toks, Decidable (SeparateAfter t toks)
  | t, [] => inferInstanceAs (Decidable (t ≠ .comma))
  | _, t' :: toks =>
      have : Decidable (SeparateAfter t' toks) := instDecidableSeparateAfter t' toks
      inferInstanceAs (Decidable (_ ∧ _ ∧ _))

/-- Every comma has an element on either side. -/
def CommasSeparate : List Token → Prop
  | [] => True
  | t :: toks => t ≠ .comma ∧ SeparateAfter t toks

/-- All closing brackets are alike. -/
lemma separateAfter_closes {t : Token} (ht : t.Closes) (toks : List Token) :
    SeparateAfter t toks ↔ SeparateAfter .rparen toks := by
  have hends : ∀ t' : Token, t'.Closes → t'.EndsElement := fun _ h => .inl h
  have hcomma : ∀ t' : Token, t'.Closes → t' ≠ .comma := by
    rintro t' (rfl | rfl | rfl) <;> decide
  cases toks with
  | nil => exact iff_of_true (hcomma t ht) (by decide)
  | cons t' toks =>
      simp only [SeparateAfter, hends t ht, hcomma t ht, hends .rparen (.inl rfl), implies_true,
        false_imp_iff, true_and, reduceCtorEq]

/-- Further entries of a property map, behind the brace of the one before. -/
lemma separateAfter_moreEntries {es : List (String × String)} (hes : ∀ e ∈ es, e.1 ∉ keywords)
    (toks : List Token) :
    SeparateAfter .rbrace (moreEntries es ++ toks) ↔ SeparateAfter .rbrace toks := by
  induction es with
  | nil => rfl
  | cons e es ih =>
      have he : (Token.word e.1).StartsElement := .inr (hes e (by simp))
      have hes' := ih fun e' he' => hes e' (by simp [he'])
      rw [moreEntries, List.flatMap_cons, List.append_assoc, ← moreEntries]
      simp only [entryToks, List.cons_append, List.nil_append, SeparateAfter, hes', he,
        Token.EndsElement, Token.Closes, reduceCtorEq, false_imp_iff, implies_true, true_and,
        or_true, true_or]

end Cypher
