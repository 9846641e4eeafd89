import CrazyIvan.Query.SceneStatements

/-!
The statements the scene query builder writes for a retrieve message.

* `visibility`: the property by which a query keeps to the scenes its user may
  see.
* `parse_retrieve_key`, `parse_retrieve`: the text of a query by key, and of a
  query by any other fields, as syntax trees.
* `answer_retrieve_key`, `answer_retrieve`: the rows they return.
-/

namespace CrazyIvan

open Cypher

section Retrieve

variable {R : Type} [Field R] [LinearOrder R]

/-! ### Syntax trees -/

/-- The user's own scenes for a private query, else the public ones. -/
def visibility (scn : SceneDocument R) : List (String × String) :=
  if ¬ (scn.user = "" ∨ scn.isPublic) then [("user", "inp_user")]
  else if scn.isPublic then [("public", "inp_public")] else []

omit [LinearOrder R] in
/-- An accepted message asks for public scenes, or for those of its user. -/
lemma visibility_of_accepted {scn : SceneDocument R} (hacc : retrieveAccepted scn) :
    (scn.isPublic = true ∧ visibility scn = [("public", "inp_public")]) ∨
      (scn.isPublic = false ∧ visibility scn = [("user", "inp_user")]) := by
  rw [visibility]
  cases hpublic : scn.isPublic with
  | true => simp
  | false => simpa [retrieveAccepted, hpublic] using hacc

/-- The property map of a query without a key. It is left out, and the visibility
with it, where neither a name nor a region is given. -/
def retrieveEntries (scn : SceneDocument R) : List (String × String) :=
  if scn.name ≠ "" ∨ scn.region ≠ "" then
    optEntry (scn.name ≠ "") ("name", "inp_name") ++
      optEntry (scn.region ≠ "") ("region", "inp_region") ++ visibility scn
  else []

/-- The message gives a position. -/
def HasPosition (scn : SceneDocument R) : Prop :=
  scn.latitude > -9998.9 ∧ scn.longitude > -9998.9 ∧ scn.distance > 0

instance (scn : SceneDocument R) : Decidable (HasPosition scn) :=
  inferInstanceAs (Decidable (_ ∧ _))

/-- Every tag of the message is one of the scene. -/
def tagsCond : Expr :=
  .all "x" (.param "inp_tags") (.bin .mem (.var "x") (.prop "scn" "tags"))

/-- The scene is within the distance of the message, by the haversine formula. -/
def distanceCond : Expr :=
  .bin .lt
    (.bin .mul (.num 12742000) (.call "asin" (.call "sqrt"
      (.bin .add
        (.call "haversin" (.call "radians" (.bin .sub (.param "inp_lat") (.prop "scn" "latitude"))))
        (.bin .mul
          (.bin .mul (.call "cos" (.call "radians" (.param "inp_lat")))
            (.call "cos" (.call "radians" (.prop "scn" "latitude"))))
          (.call "haversin" (.call "radians"
            (.bin .sub (.prop "scn" "longitude") (.param "inp_long")))))))))
    (.param "inp_distance")

def retrieveCond (scn : SceneDocument R) : Option Expr :=
  if scn.numTags > 0 then
    some (if HasPosition scn then .bin .and tagsCond distanceCond else tagsCond)
  else if HasPosition scn then some distanceCond else none

/-- The statement of a query by key. -/
def retrieveKeyStatement (scn : SceneDocument R) : Statement :=
  ⟨[.node ⟨"scn", some "Scene", ("key", "inp_key") :: visibility scn⟩], none, .none, ["scn"],
    none⟩

/-- The statement of a query without a key. -/
def retrieveStatement (scn : SceneDocument R) : Statement :=
  ⟨[.node ⟨"scn", some "Scene", retrieveEntries scn⟩], retrieveCond scn, .none, ["scn"],
    some ⟨"scn", "key", "inp_skip", "inp_limit"⟩⟩

/-! ### By key -/

/-- The text of a query by key is its statement. -/
theorem parse_retrieve_key {key : String} (hkey : key ≠ "") (opType : ℤ)
    (scn : SceneDocument R) :
    parse (lex (generateSceneCrudQuery key .getQueryType opType scn))
      = some (retrieveKeyStatement scn) := by
  dsimp only [generateSceneCrudQuery, retrieveKeyStatement, visibility]
  rw [opt_pos hkey, opt_pos rfl, opt_neg (not_not.mpr hkey), opt_neg (fun h => h.2 hkey),
    if_neg (by decide)]
  by_cases hprivate : ¬ (scn.user = "" ∨ scn.isPublic)
  · rw [if_pos hprivate, if_pos hprivate, lex_spelled]
    rfl
  · rw [if_neg hprivate, if_neg hprivate]
    by_cases hpublic : scn.isPublic
    · rw [if_pos hpublic, if_pos hpublic, lex_spelled]
      rfl
    · rw [if_neg hpublic, if_neg hpublic, lex_spelled]
      rfl

/-! ### Without a key -/

/-- The tokens of a property map that is left out where it is empty. -/
def propertyToks : List (String × String) → List Token
  | [] => []
  | e :: es => .lbrace :: (entryToks e ++ (moreEntries es ++ [.rbrace]))

def tagsToks : List Token :=
  [.word "ALL", .lparen, .word "x", .word "in", .lbrace, .word "inp_tags", .rbrace, .word "WHERE",
    .word "x", .word "in", .word "scn", .dot, .word "tags", .rparen]

def distanceToks : List Token :=
  [.lparen, .word "12742000", .star, .word "asin", .lparen, .word "sqrt", .lparen,
    .word "haversin", .lparen, .word "radians", .lparen, .lbrace, .word "inp_lat", .rbrace,
    .minus, .word "scn", .dot, .word "latitude", .rparen, .rparen, .plus, .word "cos", .lparen,
    .word "radians", .lparen, .lbrace, .word "inp_lat", .rbrace, .rparen, .rparen, .star,
    .word "cos", .lparen, .word "radians", .lparen, .word "scn", .dot, .word "latitude", .rparen,
    .rparen, .star, .word "haversin", .lparen, .word "radians", .lparen, .word "scn", .dot,
    .word "longitude", .minus, .lbrace, .word "inp_long", .rbrace, .rparen, .rparen, .rparen,
    .rparen, .rparen, .lt, .lbrace, .word "inp_distance", .rbrace]

/-- The tokens of the conditions. -/
def conditionToks (scn : SceneDocument R) : List Token :=
  (if scn.numTags > 0 then .word "WHERE" :: tagsToks else []) ++
  if HasPosition scn then
    (if scn.numTags > 0 then .word "AND" else .word "WHERE") :: distanceToks
  else []

def pageToks : List Token :=
  [.word "RETURN", .word "scn", .word "ORDER", .word "BY", .word "scn", .dot, .word "key",
    .word "SKIP", .lbrace, .word "inp_skip", .rbrace, .word "LIMIT", .lbrace, .word "inp_limit",
    .rbrace]

/-- The visibility as it is written. -/
def visibilityText (scn : SceneDocument R) : String :=
  if ¬ (scn.user = "" ∨ scn.isPublic) then ", user: {inp_user}"
  else if scn.isPublic then ", public: {inp_public}" else ""

omit [LinearOrder R] in
lemma lex_visibilityText (scn : SceneDocument R) :
    lex (visibilityText scn) = moreEntries (visibility scn) := by
  rw [visibilityText, visibility]
  split
  · decide
  · split <;> decide

/-- The property map as it is written. -/
def filterText (scn : SceneDocument R) : String :=
  opt (scn.name ≠ "" ∨ scn.region ≠ "")
    (" \x7b" ++ opt (scn.name ≠ "") "name: {inp_name}" ++
      opt (scn.region ≠ "") (opt (scn.name ≠ "") ", " ++ "region: {inp_region}") ++
      visibilityText scn ++ "\x7d")

omit [LinearOrder R] in
/-- A property map that opens with some text and goes on with the visibility. -/
lemma lex_withVisibility (scn : SceneDocument R) {s : String} (hends : EndsFresh s)
    (e : String × String) (es : List (String × String))
    (hs : lex s = .lbrace :: (entryToks e ++ moreEntries es)) :
    lex (s ++ visibilityText scn ++ "\x7d") = propertyToks (e :: (es ++ visibility scn)) := by
  rw [lex_append_left _ (by decide), lex_append_right hends, hs, lex_visibilityText,
    show lex "\x7d" = [.rbrace] by decide, propertyToks, moreEntries_append]
  simp only [List.cons_append, List.append_assoc]

omit [LinearOrder R] in
lemma lex_filterText (scn : SceneDocument R) :
    lex (filterText scn) = propertyToks (retrieveEntries scn) := by
  rw [filterText, retrieveEntries]
  by_cases hname : scn.name ≠ ""
  · by_cases hregion : scn.region ≠ ""
    · rw [opt_pos (.inl hname), opt_pos hname, opt_pos hregion, opt_pos hname,
        if_pos (.inl hname), optEntry, optEntry, if_pos hname, if_pos hregion]
      exact lex_withVisibility scn (by decide) ("name", "inp_name") [("region", "inp_region")]
        (by decide)
    · rw [opt_pos (.inl hname), opt_pos hname, opt_neg hregion,
        if_pos (.inl hname), optEntry, optEntry, if_pos hname, if_neg hregion]
      exact lex_withVisibility scn (by decide) ("name", "inp_name") [] (by decide)
  · by_cases hregion : scn.region ≠ ""
    · rw [opt_pos (.inr hregion), opt_neg hname, opt_pos hregion, opt_neg hname,
        if_pos (.inr hregion), optEntry, optEntry, if_neg hname, if_pos hregion]
      exact lex_withVisibility scn (by decide) ("region", "inp_region") [] (by decide)
    · have hnone : ¬ (scn.name ≠ "" ∨ scn.region ≠ "") := not_or.mpr ⟨hname, hregion⟩
      rw [opt_neg hnone, if_neg hnone]
      rfl

/-- A text that opens with a delimiter still does so when it is continued. -/
lemma opensFresh_append {a : String} (ha : OpensFresh a) (hne : a ≠ "") (b : String) :
    OpensFresh (a ++ b) := by
  have htoList : a.toList ≠ [] := by simpa using hne
  intro c hc
  rw [String.toList_append, List.head?_append_of_ne_nil _ htoList] at hc
  exact ha c hc

omit [LinearOrder R] in
lemma opensFresh_filterText (scn : SceneDocument R) : OpensFresh (filterText scn) := by
  refine opensFresh_opt _ ?_
  simp only [String.append_assoc]
  exact opensFresh_append (by decide) (by decide) _

/-- The distance condition as it is written. -/
def distanceText : String :=
  " ( " ++ "12742000 * asin(" ++ "sqrt(" ++ "haversin(radians({inp_lat} - scn.latitude)) + " ++
  "cos(radians({inp_lat})) * cos(radians(scn.latitude)) * " ++
  "haversin(radians(scn.longitude - {inp_long}))" ++ ")" ++ ")" ++ ") < {inp_distance}"

lemma opensFresh_distanceText : OpensFresh distanceText := by
  rw [distanceText]
  simp only [String.append_assoc]
  exact opensFresh_append (by decide) (by decide) _

lemma lex_distanceText : lex distanceText = distanceToks := by
  rw [distanceText, lex_spelled]
  decide

/-- The conditions as they are written. -/
def positionText (scn : SceneDocument R) : String :=
  opt (HasPosition scn) ((if scn.numTags > 0 then " AND" else " WHERE") ++ distanceText)

def conditionText (scn : SceneDocument R) : String :=
  opt (scn.numTags > 0) " WHERE ALL(x in {inp_tags} WHERE x in scn.tags)" ++ positionText scn

lemma opensFresh_positionText (scn : SceneDocument R) : OpensFresh (positionText scn) := by
  refine opensFresh_opt _ ?_
  split <;> exact opensFresh_append (by decide) (by decide) _

lemma opensFresh_conditionText (scn : SceneDocument R) : OpensFresh (conditionText scn) := by
  rw [conditionText, opt]
  split
  · exact opensFresh_append (by decide) (by decide) _
  · rw [String.empty_append]
    exact opensFresh_positionText scn

lemma lex_conditionText (scn : SceneDocument R) :
    lex (conditionText scn) = conditionToks scn := by
  have hjoin : ∀ w : String, lex (w ++ distanceText) = lex w ++ distanceToks := fun w => by
    rw [lex_append_left w opensFresh_distanceText, lex_distanceText]
  rw [conditionText, lex_append_left _ (opensFresh_positionText scn), positionText, lex_opt,
    lex_opt, hjoin, conditionToks]
  by_cases htags : scn.numTags > 0
  · rw [if_pos htags, if_pos htags, if_pos htags, if_pos htags]
    rfl
  · rw [if_neg htags, if_neg htags, if_neg htags, if_neg htags]
    rfl

/-- The text of a query without a key. -/
lemma retrieveText (opType : ℤ) (scn : SceneDocument R) :
    generateSceneCrudQuery "" .getQueryType opType scn =
      "MATCH (scn:Scene" ++ filterText scn ++ ")" ++ conditionText scn ++ " RETURN scn" ++
        " ORDER BY scn.key SKIP {inp_skip} LIMIT {inp_limit}" := by
  have hnokey : ¬ ("" : String) ≠ "" := by decide
  have hget : CrudOp.getQueryType = .getQueryType ∧ ¬ ("" : String) ≠ "" := ⟨rfl, hnokey⟩
  dsimp only [generateSceneCrudQuery, filterText, visibilityText, conditionText, positionText,
    distanceText]
  rw [opt_neg hnokey, opt_pos hnokey, opt_pos hget, if_neg (by decide)]
  simp only [String.append_assoc, String.empty_append]
  rfl

lemma lex_retrieve (opType : ℤ) (scn : SceneDocument R) :
    lex (generateSceneCrudQuery "" .getQueryType opType scn) =
      .word "MATCH" :: .lparen :: .word "scn" :: .colon :: .word "Scene" ::
        (propertyToks (retrieveEntries scn) ++ .rparen :: (conditionToks scn ++ pageToks)) := by
  rw [retrieveText, lex_append_left _ (by decide), lex_append_left _ (by decide),
    lex_append_left _ (opensFresh_conditionText scn), lex_append_left _ (by decide),
    lex_append_left _ (opensFresh_filterText scn), lex_filterText, lex_conditionText,
    show lex "MATCH (scn:Scene" = [.word "MATCH", .lparen, .word "scn", .colon,
      .word "Scene"] by decide, show lex ")" = [.rparen] by decide,
    show lex " RETURN scn" = [.word "RETURN", .word "scn"] by decide,
    show lex " ORDER BY scn.key SKIP {inp_skip} LIMIT {inp_limit}" = [.word "ORDER", .word "BY",
      .word "scn", .dot, .word "key", .word "SKIP", .lbrace, .word "inp_skip", .rbrace,
      .word "LIMIT", .lbrace, .word "inp_limit", .rbrace] by decide, pageToks]
  simp only [List.append_assoc, List.cons_append, List.nil_append]

lemma optProperties_propertyToks (es : List (String × String)) (rest : List Token) :
    optProperties (propertyToks es ++ .rparen :: rest) = some (es, .rparen :: rest) := by
  cases es with
  | nil => rfl
  | cons e es =>
      rw [propertyToks, List.cons_append, optProperties, List.append_assoc, List.append_assoc]
      exact properties_entries e es (.rparen :: rest)

/-- The one pattern of a query, in front of a keyword. -/
lemma patterns_scene (n : ℕ) (es : List (String × String)) (w : String) (rest : List Token) :
    patterns (n + 1) (.lparen :: .word "scn" :: .colon :: .word "Scene" ::
        (propertyToks es ++ .rparen :: .word w :: rest)) =
      some ([.node ⟨"scn", some "Scene", es⟩], .word w :: rest) := by
  simp only [patterns, pattern, nodePat, optProperties_propertyToks, Option.bind_some]

/-- What is matched under a condition. -/
lemma matchPart_where {n : ℕ} (es : List (String × String)) {toks : List Token} {e : Expr}
    (hread : expression (n + 1) 0 (toks ++ pageToks) = some (e, pageToks)) :
    matchPart (n + 1) (.word "MATCH" :: .lparen :: .word "scn" :: .colon :: .word "Scene" ::
        (propertyToks es ++ .rparen :: .word "WHERE" :: (toks ++ pageToks))) =
      some (([.node ⟨"scn", some "Scene", es⟩], some e), pageToks) := by
  simp only [matchPart, patterns_scene, Option.bind_some, hread, Option.map_some]

/-- What is matched, in front of the projection. -/
lemma matchPart_retrieve (scn : SceneDocument R) (es : List (String × String)) {n : ℕ}
    (hn : 11 + (conditionToks scn).length ≤ n) :
    matchPart n (.word "MATCH" :: .lparen :: .word "scn" :: .colon :: .word "Scene" ::
        (propertyToks es ++ .rparen :: (conditionToks scn ++ pageToks))) =
      some (([.node ⟨"scn", some "Scene", es⟩], retrieveCond scn), pageToks) := by
  -- The nesting of the conditions is at most 26 deep.
  rw [conditionToks] at hn ⊢
  rw [retrieveCond]
  by_cases htags : scn.numTags > 0
  · rw [if_pos htags, if_pos htags] at hn ⊢
    rw [if_pos htags]
    obtain ⟨k, rfl⟩ : ∃ k, n = k + 25 + 1 :=
      ⟨n - 26, by simp [tagsToks] at hn; omega⟩
    by_cases hpos : HasPosition scn
    · rw [if_pos hpos, if_pos hpos, List.append_assoc]
      have hread : expression (k + 25 + 1) 0 ((tagsToks ++ .word "AND" :: distanceToks) ++ pageToks)
          = some (.bin .and tagsCond distanceCond, pageToks) := rfl
      exact matchPart_where es hread
    · rw [if_neg hpos, if_neg hpos, List.append_nil]
      have hread : expression (k + 25 + 1) 0 (tagsToks ++ pageToks) = some (tagsCond, pageToks) :=
        rfl
      exact matchPart_where es hread
  · rw [if_neg htags, if_neg htags] at hn ⊢
    rw [if_neg htags]
    by_cases hpos : HasPosition scn
    · rw [if_pos hpos] at hn ⊢
      rw [if_pos hpos]
      obtain ⟨k, rfl⟩ : ∃ k, n = k + 25 + 1 :=
        ⟨n - 26, by simp [distanceToks] at hn; omega⟩
      have hread : expression (k + 25 + 1) 0 (distanceToks ++ pageToks)
          = some (distanceCond, pageToks) := rfl
      exact matchPart_where es hread
    · rw [if_neg hpos] at hn ⊢
      rw [if_neg hpos]
      obtain ⟨k, rfl⟩ : ∃ k, n = k + 1 := ⟨n - 1, by omega⟩
      show (patterns (k + 1) (.lparen :: .word "scn" :: .colon :: .word "Scene" ::
        (propertyToks es ++ .rparen :: .word "RETURN" :: pageToks.tail))).bind _ = _
      rw [patterns_scene]
      rfl

/-- The text of a query without a key is its statement. -/
theorem parse_retrieve (opType : ℤ) (scn : SceneDocument R) :
    parse (lex (generateSceneCrudQuery "" .getQueryType opType scn))
      = some (retrieveStatement scn) := by
  rw [lex_retrieve, parse, matchPart_retrieve scn]
  · rfl
  · simp [pageToks]
    omega

/-! ### Parameters -/

section Lookup

variable (m : SceneList R) {scn : SceneDocument R}

attribute [local simp] retrieveSceneQuery generateQueryParameters lookup_optParam List.lookup_cons

lemma lookup_key (hkey : scn.key ≠ "") :
    (retrieveSceneQuery m scn).params.lookup "inp_key" = some (.str scn.key) := by
  simp [List.lookup_append, hkey]

lemma lookup_public (scn : SceneDocument R) :
    (retrieveSceneQuery m scn).params.lookup "inp_public" = some (.bool scn.isPublic) := by
  simp [List.lookup_append]

lemma lookup_user (hacc : retrieveAccepted scn) :
    (retrieveSceneQuery m scn).params.lookup "inp_user" = some (.str scn.user) := by
  have hsent : ¬ (scn.user = "" ∨ scn.isPublic) ∨ scn.isPublic := hacc.symm
  simp only [retrieveSceneQuery, generateQueryParameters, List.lookup_append, lookup_optParam,
    if_pos hsent]
  simp

/-- The bounds of the page. -/
lemma lookup_page (hkey : scn.key = "") :
    (retrieveSceneQuery m scn).params.lookup "inp_skip" = some (.int m.startRecord) ∧
      (retrieveSceneQuery m scn).params.lookup "inp_limit" = some (.int m.numRecords) := by
  simp [List.lookup_append, hkey]

/-- The parameters of the conditions. -/
lemma lookup_conditions (hkey : scn.key = "") :
    let params := (retrieveSceneQuery m scn).params
    (scn.numTags > 0 → params.lookup "inp_tags" = some (.strs scn.tags)) ∧
      params.lookup "inp_lat" =
        (if scn.latitude > -9999 then some (.num scn.latitude) else none) ∧
      params.lookup "inp_long" =
        (if scn.longitude > -9999 then some (.num scn.longitude) else none) ∧
      params.lookup "inp_distance" =
        if scn.distance > 0.01 then some (.num scn.distance) else none := by
  refine ⟨fun h => ?_, ?_, ?_, ?_⟩
  · simp [List.lookup_append, h]
  · simp [List.lookup_append]
  · simp [List.lookup_append]
  · simp [List.lookup_append, hkey]

/-- The parameter of the visibility is sent. -/
lemma given_visibility (hacc : retrieveAccepted scn) :
    ∀ p ∈ (visibility scn).map Prod.snd,
      ((retrieveSceneQuery m scn).params.lookup p).isSome := by
  rcases visibility_of_accepted hacc with ⟨_, h⟩ | ⟨_, h⟩ <;>
    rw [h, List.map_singleton, List.forall_mem_singleton]
  · rw [lookup_public m scn, Option.isSome_some]
  · rw [lookup_user m hacc, Option.isSome_some]

/-- The parameters of the property map are sent. -/
lemma given_retrieveEntries (hacc : retrieveAccepted scn) :
    ∀ p ∈ (retrieveEntries scn).map Prod.snd,
      ((retrieveSceneQuery m scn).params.lookup p).isSome := by
  intro p hp
  rw [retrieveEntries] at hp
  split at hp
  · simp only [List.map_append, map_optEntry, List.mem_append, mem_optEntry] at hp
    obtain (⟨hname, rfl⟩ | ⟨hregion, rfl⟩) | hp := hp
    · simp [List.lookup_append, hname]
    · simp [List.lookup_append, hregion]
    · exact given_visibility m hacc p hp
  · cases hp

end Lookup

/-- The distance of a message that gives a position is sent with it: one below a
centimetre is not. -/
def DistanceSent (scn : SceneDocument R) : Prop := HasPosition scn → scn.distance > 0.01

instance (scn : SceneDocument R) : Decidable (DistanceSent scn) :=
  inferInstanceAs (Decidable (_ → _))

omit [LinearOrder R] in
/-- The parameters a property map can name. -/
lemma params_retrieveEntries (scn : SceneDocument R) :
    ∀ p ∈ (retrieveEntries scn).map Prod.snd,
      p ∈ ["inp_name", "inp_region", "inp_user", "inp_public"] := by
  have hvisible : ∀ p ∈ (visibility scn).map Prod.snd, p ∈ ["inp_user", "inp_public"] := by
    rw [visibility]
    split
    · decide
    · split <;> decide
  intro p hp
  rw [retrieveEntries] at hp
  split at hp
  · simp only [List.map_append, map_optEntry, List.mem_append, mem_optEntry] at hp
    obtain (⟨-, rfl⟩ | ⟨-, rfl⟩) | hp := hp
    · simp
    · simp
    · simpa using Or.inr (Or.inr (by simpa using hvisible p hp))
  · cases hp

lemma params_retrieveCond (scn : SceneDocument R) :
    ((retrieveCond scn).map Expr.params).getD [] =
      (if scn.numTags > 0 then ["inp_tags"] else []) ++
        if HasPosition scn then ["inp_lat", "inp_lat", "inp_long", "inp_distance"] else [] := by
  rw [retrieveCond]
  by_cases htags : scn.numTags > 0 <;> by_cases hpos : HasPosition scn <;>
    simp only [htags, hpos, if_true, if_false] <;> rfl

/-- The parameters of a query without a key. -/
lemma params_retrieveStatement (scn : SceneDocument R) :
    (retrieveStatement scn).params = (retrieveEntries scn).map Prod.snd ++
      ((if scn.numTags > 0 then ["inp_tags"] else []) ++
        if HasPosition scn then ["inp_lat", "inp_lat", "inp_long", "inp_distance"] else []) ++
      ["inp_skip", "inp_limit"] := by
  rw [← params_retrieveCond, retrieveStatement, Statement.params]
  simp [Pattern.params, Update.params]

section Given

attribute [local simp] retrieveSceneQuery generateQueryParameters lookup_optParam List.lookup_cons

/-- The parameters of a query without a key are sent exactly if the distance is. -/
lemma given_retrieve [IsStrictOrderedRing R] (m : SceneList R) {scn : SceneDocument R}
    (hkey : scn.key = "") (hacc : retrieveAccepted scn) :
    (∀ p ∈ (retrieveStatement scn).params,
      ((retrieveSceneQuery m scn).params.lookup p).isSome) ↔ DistanceSent scn := by
  obtain ⟨hskip, hlimit⟩ := lookup_page m hkey
  have hentries := given_retrieveEntries m hacc
  have htags : ∀ p ∈ (if scn.numTags > 0 then ["inp_tags"] else []),
      ((retrieveSceneQuery m scn).params.lookup p).isSome := by
    intro p hp
    split at hp
    · next h =>
        obtain rfl := List.mem_singleton.mp hp
        simp [List.lookup_append, h]
    · cases hp
  have hpos : (∀ p ∈ (if HasPosition scn then ["inp_lat", "inp_lat", "inp_long", "inp_distance"]
      else []), ((retrieveSceneQuery m scn).params.lookup p).isSome) ↔ DistanceSent scn := by
    by_cases h : HasPosition scn
    · have hlat : scn.latitude > -9999 := lt_trans (by norm_num) h.1
      have hlong : scn.longitude > -9999 := lt_trans (by norm_num) h.2.1
      rw [if_pos h]
      simp [List.lookup_append, hkey, hlat, hlong, DistanceSent, h]
    · rw [if_neg h]
      exact ⟨fun _ hp => absurd hp h, fun _ _ hp => absurd hp List.not_mem_nil⟩
  rw [params_retrieveStatement]
  simp only [List.forall_mem_append, hpos, List.forall_mem_cons, hskip, hlimit]
  exact ⟨fun h => h.1.2.2, fun h => ⟨⟨hentries, htags, h⟩, by simp⟩⟩

end Given

/-! ### Answers -/

/-- The scenes a message may be answered with. -/
def Visible (scn : SceneDocument R) (n : Node R) : Prop :=
  if scn.isPublic then n.props "public" = some (.bool true)
  else n.props "user" = some (.str scn.user)

instance (scn : SceneDocument R) (n : Node R) : Decidable (Visible scn n) := by
  unfold Visible; infer_instance

/-- The visibility holds exactly of the visible scenes. -/
lemma matchProps_visibility (m : SceneList R) {scn : SceneDocument R}
    (hacc : retrieveAccepted scn) (n : Node R) :
    matchProps (retrieveSceneQuery m scn).params (visibility scn) n.props
      = decide (Visible scn n) := by
  rcases visibility_of_accepted hacc with ⟨hpublic, h⟩ | ⟨hpublic, h⟩
  · simp [h, matchProps, lookup_public, Visible, hpublic]
  · simp [h, matchProps, lookup_user m hacc, Visible, hpublic]

variable (fn : String → R → R)

/-- A query by key. -/
theorem answer_retrieve_key (m : SceneList R) {scn : SceneDocument R} (hkey : scn.key ≠ "")
    (hacc : retrieveAccepted scn) (g : Graph R) :
    db fn (retrieveSceneQuery m scn) g =
      (.rows (((scenes g scn.key).filter (Visible scn ·)).map fun n => [.node n]), g) := by
  have hparse : parse (lex (retrieveSceneQuery m scn).text) = some (retrieveKeyStatement scn) :=
    parse_retrieve_key hkey opAppend scn
  have hparams : (retrieveKeyStatement scn).params =
      "inp_key" :: (visibility scn).map Prod.snd := by
    simp [retrieveKeyStatement, Statement.params, Pattern.params, Update.params]
  have hgiven : ∀ p ∈ (retrieveKeyStatement scn).params,
      ((retrieveSceneQuery m scn).params.lookup p).isSome := by
    rw [hparams, List.forall_mem_cons, lookup_key m hkey]
    exact ⟨rfl, given_visibility m hacc⟩
  have hfits : ∀ n : Node R, NodePat.fits (retrieveSceneQuery m scn).params
      ⟨"scn", some "Scene", ("key", "inp_key") :: visibility scn⟩ n =
        (decide (Visible scn n) && decide (HasKey "Scene" scn.key n)) := fun n => by
    have hvisible := matchProps_visibility m hacc n
    have hhas : decide (HasKey "Scene" scn.key n) =
        (decide (n.label = "Scene") && decide (n.props "key" = some (.str scn.key))) :=
      Bool.decide_and _ _
    rw [matchProps] at hvisible
    rw [NodePat.fits, matchProps, List.all_cons, hvisible, lookup_key m hkey, hhas]
    simp only [Option.all_some]
    rw [← Bool.and_assoc, Bool.and_comm]
  rw [db, answer_given fn hparse hgiven]
  simp only [retrieveKeyStatement, Update.apply, matchRows_node_where, hfits, holds_none,
    Bool.and_true, scenes, List.filter_filter, List.map_map]
  rfl

/-- A stored scene that the filter of a message matches; the bounds of the page are no
part of it. -/
def Matches (scn : SceneDocument R) (n : Node R) : Bool :=
  let params := (retrieveSceneQuery {} scn).params
  NodePat.fits params ⟨"scn", some "Scene", retrieveEntries scn⟩ n &&
    holds fn params (retrieveCond scn) [("scn", .node n)]

/-- The stored scenes that the filter of a message matches, by their keys. -/
def matching (scn : SceneDocument R) (g : Graph R) : List (Node R) :=
  (g.nodes.filter (Matches fn scn)).insertionSort (NodeLe "key")

/-- The filter reads no bound of the page. -/
lemma matches_eq (m : SceneList R) (scn : SceneDocument R) (n : Node R) :
    (NodePat.fits (retrieveSceneQuery m scn).params ⟨"scn", some "Scene", retrieveEntries scn⟩ n &&
      holds fn (retrieveSceneQuery m scn).params (retrieveCond scn) [("scn", .node n)])
      = Matches fn scn n := by
  have hlookup : ∀ p, p ≠ "inp_skip" → p ≠ "inp_limit" →
      (retrieveSceneQuery m scn).params.lookup p
        = (retrieveSceneQuery {} scn).params.lookup p := by
    intro p hskip hlimit
    simp only [retrieveSceneQuery, generateQueryParameters, List.lookup_append, lookup_optParam,
      hskip, hlimit, if_false]
  have hagree : ∀ ps : List String, (∀ p ∈ ps, p ≠ "inp_skip" ∧ p ≠ "inp_limit") → ∀ p ∈ ps,
      (retrieveSceneQuery m scn).params.lookup p = (retrieveSceneQuery {} scn).params.lookup p :=
    fun ps h p hp => hlookup p (h p hp).1 (h p hp).2
  have hentries : ∀ p ∈ (retrieveEntries scn).map Prod.snd, p ≠ "inp_skip" ∧ p ≠ "inp_limit" := by
    intro p hp
    have hmem := params_retrieveEntries scn p hp
    constructor <;> rintro rfl <;> revert hmem <;> decide
  have hcond : ∀ p ∈ ((retrieveCond scn).map Expr.params).getD [],
      p ≠ "inp_skip" ∧ p ≠ "inp_limit" := by
    rw [params_retrieveCond, List.forall_mem_append]
    constructor <;> split <;> decide
  rw [Matches, fits_congr ⟨"scn", some "Scene", retrieveEntries scn⟩ (hagree _ hentries) n,
    holds_congr fn (hagree _ hcond)]

/-- A query without a key, whose parameters are all sent. -/
theorem answer_retrieve [IsStrictOrderedRing R] (m : SceneList R) {scn : SceneDocument R}
    (hkey : scn.key = "") (hacc : retrieveAccepted scn) (hsent : DistanceSent scn)
    (g : Graph R) :
    db fn (retrieveSceneQuery m scn) g =
      (if m.startRecord < 0 ∨ m.numRecords < 0 then
        .throw "SKIP and LIMIT must be non-negative integers"
      else
        .rows ((((matching fn scn g).drop m.startRecord.toNat).take m.numRecords.toNat).map
          fun n => [.node n]), g) := by
  have hparse : parse (lex (retrieveSceneQuery m scn).text) = some (retrieveStatement scn) := by
    rw [retrieveSceneQuery, hkey]
    exact parse_retrieve opAppend scn
  obtain ⟨hskip, hlimit⟩ := lookup_page m hkey
  rw [db, answer_given fn hparse ((given_retrieve m hkey hacc).mpr hsent)]
  simp only [retrieveStatement, Update.apply, matchRows_node_where, matches_eq,
    page_nodes _ hskip hlimit]
  by_cases hneg : m.startRecord < 0 ∨ m.numRecords < 0
  · rw [if_pos hneg, if_pos hneg]
  · simp only [if_neg hneg, List.map_map]
    rfl

/-- Any other is refused, with the same text for every graph. -/
theorem answer_retrieve_refused [IsStrictOrderedRing R] (m : SceneList R)
    {scn : SceneDocument R} (hkey : scn.key = "") (hacc : retrieveAccepted scn)
    (hsent : ¬ DistanceSent scn) :
    ∃ what, ∀ g, db fn (retrieveSceneQuery m scn) g = (.throw what, g) := by
  rw [← given_retrieve m hkey hacc] at hsent
  simp only [not_forall] at hsent
  obtain ⟨p, hp, hnone⟩ := hsent
  have hparse : parse (lex (retrieveSceneQuery m scn).text) = some (retrieveStatement scn) := by
    rw [retrieveSceneQuery, hkey]
    exact parse_retrieve opAppend scn
  exact answer_expected fn hparse hp (Option.not_isSome_iff_eq_none.mp hnone)

/-- The refusal names the distance. -/
theorem answer_retrieve_unsent [IsStrictOrderedRing R] (m : SceneList R)
    {scn : SceneDocument R} (hkey : scn.key = "") (hacc : retrieveAccepted scn)
    (hsent : ¬ DistanceSent scn) (g : Graph R) :
    db fn (retrieveSceneQuery m scn) g =
      (.throw "Expected a parameter named inp_distance", g) := by
  have hparse : parse (lex (retrieveSceneQuery m scn).text) = some (retrieveStatement scn) := by
    rw [retrieveSceneQuery, hkey]
    exact parse_retrieve opAppend scn
  obtain ⟨hpos, hdistance⟩ : HasPosition scn ∧ ¬ scn.distance > 0.01 := by
    simpa [DistanceSent] using hsent
  obtain ⟨htags, hlat, hlong, hlookup⟩ := lookup_conditions m hkey
  obtain ⟨hskip, hlimit⟩ := lookup_page m hkey
  have hnorth : scn.latitude > -9999 := lt_trans (by norm_num) hpos.1
  have heast : scn.longitude > -9999 := lt_trans (by norm_num) hpos.2.1
  refine answer_expected_one fn hparse (p := "inp_distance") ?_ ?_ ?_ g
  · rw [params_retrieveStatement, if_pos hpos]
    simp
  · rw [hlookup, if_neg hdistance]
  · intro q hq hne
    rw [params_retrieveStatement, if_pos hpos] at hq
    simp only [List.mem_append, List.mem_cons, List.not_mem_nil, or_false] at hq
    rcases hq with (hq | hq | rfl | rfl | rfl | rfl) | rfl | rfl
    · exact given_retrieveEntries m hacc q hq
    · split at hq
      · next h =>
          obtain rfl := List.mem_singleton.mp hq
          rw [htags h, Option.isSome_some]
      · cases hq
    · rw [hlat, if_pos hnorth, Option.isSome_some]
    · rw [hlat, if_pos hnorth, Option.isSome_some]
    · rw [hlong, if_pos heast, Option.isSome_some]
    · exact absurd rfl hne
    · rw [hskip, Option.isSome_some]
    · rw [hlimit, Option.isSome_some]

end Retrieve

end CrazyIvan
