import Mathlib.Data.List.Basic

/-!
The lexical level of Cypher: the text of a statement as a list of tokens.

* `Token`, `lex`: names, keywords and numerals are words, every other character
  that is not a blank is a token of its own.
* `lex_append_left`, `lex_append_right`: the tokens of a concatenation are the
  concatenated tokens, as soon as no word runs over the seam. A text assembled
  from fragments is lexed fragment by fragment with these two.
* `Spelled`, `lex_spelled`: the characters of a text without conditions.
-/

namespace Cypher

/-- A token of a statement. -/
inductive Token where
  | word (w : String)
  | lparen | rparen | lbrace | rbrace | lbrack | rbrack
  | colon | comma | dot | eq | lt | gt | plus | minus | star
  | other (c : Char)
deriving DecidableEq, Repr

/-- Letters, digits and the underscore make up words. -/
def isWordChar (c : Char) : Bool := c.isAlphanum || c == '_'

/-- The token of a character outside a word, none for a blank. -/
def Token.ofChar (c : Char) : List Token :=
  if c = ' ' then []
  else if c = '(' then [.lparen]
  else if c = ')' then [.rparen]
  else if c = '\x7b' then [.lbrace]
  else if c = '\x7d' then [.rbrace]
  else if c = '[' then [.lbrack]
  else if c = ']' then [.rbrack]
  else if c = ':' then [.colon]
  else if c = ',' then [.comma]
  else if c = '.' then [.dot]
  else if c = '=' then [.eq]
  else if c = '<' then [.lt]
  else if c = '>' then [.gt]
  else if c = '+' then [.plus]
  else if c = '-' then [.minus]
  else if c = '*' then [.star]
  else [.other c]

/-- The word read so far, held back to front. -/
def flush : List Char → List Token
  | [] => []
  | w => [.word (String.ofList w.reverse)]

/-- Lexing with a word under way. -/
def lexFrom : List Char → List Char → List Token
  | [], w => flush w
  | c :: cs, w =>
      if isWordChar c then lexFrom cs (c :: w)
      else flush w ++ Token.ofChar c ++ lexFrom cs []

/-- The tokens of a text. -/
def lex (s : String) : List Token := lexFrom s.toList []

example : lex "(scn:Scene {key: {inp_key}})" =
    [.lparen, .word "scn", .colon, .word "Scene", .lbrace, .word "key", .colon, .lbrace,
      .word "inp_key", .rbrace, .rbrace, .rparen] := by decide

/-! ### Lexing a concatenation -/

/-- No word runs over the left end of the text. -/
def OpensFresh (s : String) : Prop := ∀ c ∈ s.toList.head?, isWordChar c = false

/-- No word runs over the right end of the text. -/
def EndsFresh (s : String) : Prop := ∀ c ∈ s.toList.getLast?, isWordChar c = false

instance (s : String) : Decidable (OpensFresh s) :=
  decidable_of_iff ((s.toList.head?.all fun c => !isWordChar c) = true)
    (by cases h : s.toList.head? <;> simp [OpensFresh, h])

instance (s : String) : Decidable (EndsFresh s) :=
  decidable_of_iff ((s.toList.getLast?.all fun c => !isWordChar c) = true)
    (by cases h : s.toList.getLast? <;> simp [EndsFresh, h])

lemma lexFrom_append_left (a b : List Char) (w : List Char)
    (hb : ∀ c ∈ b.head?, isWordChar c = false) :
    lexFrom (a ++ b) w = lexFrom a w ++ lexFrom b [] := by
  induction a generalizing w with
  | nil =>
      cases b with
      | nil => simp [lexFrom, flush]
      | cons c b =>
          have hc : isWordChar c = false := hb c (by simp)
          simp [lexFrom, hc, flush]
  | cons c a ih =>
      by_cases hc : isWordChar c = true
      · simp only [List.cons_append, lexFrom, hc, if_true]
        exact ih (c :: w)
      · simp only [List.cons_append, lexFrom, hc, ih []]
        simp

lemma lexFrom_append_right (a b : List Char) (w : List Char) (hab : a = [] → w = [])
    (ha : ∀ c ∈ a.getLast?, isWordChar c = false) :
    lexFrom (a ++ b) w = lexFrom a w ++ lexFrom b [] := by
  induction a generalizing w with
  | nil => simp [hab rfl, lexFrom, flush]
  | cons c a ih =>
      by_cases hc : isWordChar c = true
      · have hne : a ≠ [] := by
          rintro rfl
          have := ha c (by simp)
          rw [hc] at this
          exact absurd this (by decide)
        simp only [List.cons_append, lexFrom, hc, if_true]
        refine ih (c :: w) (fun h => absurd h hne) (fun d hd => ha d ?_)
        rwa [List.getLast?_cons_of_ne_nil hne]
      · simp only [List.cons_append, lexFrom, hc]
        cases a with
        | nil => simp [lexFrom, flush]
        | cons d a =>
            have h := ih [] (by simp) (fun e he => ha e (by simpa using he))
            rw [List.cons_append] at h
            simp [h]

/-- The seam in front of a delimiter. -/
lemma lex_append_left (a : String) {b : String} (hb : OpensFresh b) :
    lex (a ++ b) = lex a ++ lex b := by
  rw [lex, String.toList_append]
  exact lexFrom_append_left _ _ [] hb

/-- The seam behind a delimiter. -/
lemma lex_append_right {a : String} (ha : EndsFresh a) (b : String) :
    lex (a ++ b) = lex a ++ lex b := by
  rw [lex, String.toList_append]
  exact lexFrom_append_right _ _ [] (fun _ => rfl) ha

/-- The characters of a text, fragment by fragment. -/
class Spelled (s : String) (cs : outParam (List Char)) : Prop where
  toList_eq : s.toList = cs

instance (priority := low) spelled_text (s : String) : Spelled s s.toList := ⟨rfl⟩

instance spelled_append (a b : String) (ca cb : List Char) [ha : Spelled a ca]
    [hb : Spelled b cb] : Spelled (a ++ b) (ca ++ cb) :=
  ⟨by rw [String.toList_append, ha.toList_eq, hb.toList_eq]⟩

/-- A text without conditions is lexed from the characters of its fragments,
which is how `decide` gets through a long one. -/
lemma lex_spelled (s : String) {cs : List Char} [h : Spelled s cs] : lex s = lexFrom cs [] := by
  rw [lex, h.toList_eq]

/-- A fragment that is appended under a condition. -/
def opt (c : Prop) [Decidable c] (s : String) : String := if c then s else ""

lemma opt_pos {c : Prop} [Decidable c] (hc : c) (s : String) : opt c s = s := if_pos hc

lemma opt_neg {c : Prop} [Decidable c] (hc : ¬ c) (s : String) : opt c s = "" := if_neg hc

lemma lex_opt (c : Prop) [Decidable c] (s : String) :
    lex (opt c s) = if c then lex s else [] := by
  rw [opt]
  split <;> rfl

lemma opensFresh_opt (c : Prop) [Decidable c] {s : String} (hs : OpensFresh s) :
    OpensFresh (opt c s) := by
  rw [opt]
  split
  · exact hs
  · decide

end Cypher
