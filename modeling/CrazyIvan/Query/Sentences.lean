import CrazyIvan.Cypher.Brackets
import CrazyIvan.Query.RetrieveStatements

/-!
What the scene messages hand to the query builder, and what the builder makes of
it.

* `Passed`, `passed_iff_asked`: the calls of the query builder, which are the
  queries of the create, the update and the retrieve message.
* `placeholders_given_iff`: every parameter the text names is in the map, exactly
  for a call that is `Covered`. The text writes a coordinate that is not -9999 and
  the map has one above -9999; the text writes a distance above zero and the map
  has one above a centimetre.
* `Sentence`: the intended grammar. `Sentence.wellBracketed` and `Sentence.separate`
  hold of all its sentences.
* `text_sentence_iff`: the text is a sentence unless it updates without a key,
  when the property map is closed that was never opened.
-/

namespace CrazyIvan

open Cypher Resumption

/-! ### Calls of the query builder -/

/-- The arguments of the query builder and of the parameter map. -/
structure BuilderCall (R : Type) [Field R] where
  key : String
  crudOp : CrudOp
  opType : ℤ
  scn : SceneDocument R
  skipVal : ℤ
  maxVal : ℤ

section Calls

variable {R : Type} [Field R] [LinearOrder R]

namespace BuilderCall

/-- The statement and its parameters. -/
def query (c : BuilderCall R) : Query R where
  text := generateSceneCrudQuery c.key c.crudOp c.opType c.scn
  params := generateQueryParameters c.key c.crudOp (some c.scn) c.skipVal c.maxVal

/-- The numbers of the scene that the text and the map see alike. -/
def Covered (c : BuilderCall R) : Prop :=
  match c.crudOp with
  | .getQueryType => c.key = "" → DistanceSent c.scn
  | _ => Storable c.scn

instance (c : BuilderCall R) : Decidable c.Covered := by
  unfold Covered
  split <;> infer_instance

end BuilderCall

/-- The calls that the messages let through. -/
inductive Passed : BuilderCall R → Prop where
  | create {uuid : String} {scn : SceneDocument R} (h : newSceneKey uuid scn ≠ "") :
      Passed ⟨newSceneKey uuid scn, .createQueryType, opAppend, scn, 0, 0⟩
  | update (opType : ℤ) {scn : SceneDocument R} (h : ¬ noUpdateFields scn) :
      Passed ⟨scn.key, .updateQueryType, opType, scn, 0, 0⟩
  | retrieve (objMsg : SceneList R) {scn : SceneDocument R} (h : retrieveAccepted scn) :
      Passed ⟨scn.key, .getQueryType, opAppend, scn, objMsg.startRecord, objMsg.numRecords⟩

/-- The calls that are let through are the queries the messages ask. -/
theorem passed_iff_asked (env : Env R) (q : Query R) :
    (∃ c, Passed c ∧ c.query = q) ↔
      ∃ (uuid : String) (objMsg : SceneList R),
        (processCreateMessage uuid objMsg).next? = some q ∨
        (processUpdateMessage objMsg).next? = some q ∨
        (processRetrieveMessage env objMsg).next? = some q := by
  constructor
  · rintro ⟨c, hc, rfl⟩
    cases hc with
    | @create uuid scn h =>
        refine ⟨uuid, { scenes := [scn] }, .inl ?_⟩
        simp only [processCreateMessage, if_neg h]
        rfl
    | @update opType scn h =>
        refine ⟨"", { opType, scenes := [scn] }, .inr (.inl ?_)⟩
        simp only [processUpdateMessage, if_neg h]
        rfl
    | @retrieve objMsg scn h =>
        refine ⟨"", { objMsg with scenes := [scn] }, .inr (.inr ?_)⟩
        simp only [processRetrieveMessage, if_pos h]
        rfl
  · rintro ⟨uuid, objMsg, hasked⟩
    cases hscenes : objMsg.scenes with
    | nil =>
        simp [processCreateMessage, processUpdateMessage, processRetrieveMessage, hscenes,
          Prog.next?, pure] at hasked
    | cons scn rest =>
        obtain hasked | hasked | hasked := hasked
        · simp only [processCreateMessage, hscenes] at hasked
          split at hasked
          · cases hasked
          · next h => exact ⟨_, .create h, Option.some.inj hasked⟩
        · simp only [processUpdateMessage, hscenes] at hasked
          split at hasked
          · cases hasked
          · next h => exact ⟨_, .update objMsg.opType h, Option.some.inj hasked⟩
        · simp only [processRetrieveMessage, hscenes] at hasked
          split at hasked
          · next h => exact ⟨_, .retrieve objMsg h, Option.some.inj hasked⟩
          · cases hasked

/-! ### Placeholders -/

lemma placeholders_itemToks {it : SetItem × List Token} (h : Assigns it) (toks : List Token) :
    placeholders (itemToks it ++ toks) = it.1.value.params ++ placeholders toks := by
  cases h <;> rfl

lemma placeholders_moreItems {its : List (SetItem × List Token)} (h : ∀ it ∈ its, Assigns it)
    (toks : List Token) :
    placeholders (moreItems its ++ toks) =
      its.flatMap (fun it => it.1.value.params) ++ placeholders toks := by
  induction its with
  | nil => rfl
  | cons it its ih =>
      have hits := ih fun i hi => h i (by simp [hi])
      rw [moreItems, List.flatMap_cons, ← moreItems]
      show placeholders ((itemToks it ++ moreItems its) ++ toks) = _
      rw [List.append_assoc, placeholders_itemToks (h it (by simp)), hits, List.flatMap_cons,
        List.append_assoc]

lemma placeholders_propertyToks (es : List (String × String)) (toks : List Token) :
    placeholders (propertyToks es ++ toks) = es.map Prod.snd ++ placeholders toks := by
  cases es with
  | nil => rfl
  | cons e es =>
      rw [propertyToks, List.cons_append, List.append_assoc, List.append_assoc]
      show e.2 :: placeholders (moreEntries es ++ ([.rbrace] ++ toks)) = _
      rw [placeholders_moreEntries]
      rfl

/-- The tokens of a query by key. -/
lemma lex_retrieve_key {key : String} (hkey : key ≠ "") (opType : ℤ) (scn : SceneDocument R) :
    lex (generateSceneCrudQuery key .getQueryType opType scn) =
      .word "MATCH" :: .lparen :: .word "scn" :: .colon :: .word "Scene" ::
        (propertyToks (("key", "inp_key") :: visibility scn) ++
          [.rparen, .word "RETURN", .word "scn"]) := by
  dsimp only [generateSceneCrudQuery, visibility]
  rw [opt_pos hkey, opt_pos rfl, opt_neg (not_not.mpr hkey), opt_neg (fun h => h.2 hkey),
    if_neg (by decide)]
  by_cases hprivate : ¬ (scn.user = "" ∨ scn.isPublic)
  · rw [if_pos hprivate, if_pos hprivate, lex_spelled]
    rfl
  · rw [if_neg hprivate, if_neg hprivate]
    by_cases hpublic : scn.isPublic
    · rw [if_pos hpublic, if_pos hpublic, lex_spelled]
      rfl
    · rw [if_neg hpublic, if_neg hpublic, lex_spelled]
      rfl

lemma placeholders_create {key : String} (hkey : key ≠ "") (opType : ℤ)
    (scn : SceneDocument R) :
    placeholders (lex (generateSceneCrudQuery key .createQueryType opType scn))
      = (createStatement scn).params := by
  rw [lex_create hkey, params_createStatement]
  show "inp_key" :: placeholders (moreEntries (createEntries scn) ++
    [.rbrace, .rparen, .word "RETURN", .word "scn"]) = _
  rw [placeholders_moreEntries]
  exact congrArg _ (List.append_nil _)

lemma placeholders_update (key : String) (opType : ℤ) (scn : SceneDocument R) :
    placeholders (lex (generateSceneCrudQuery key .updateQueryType opType scn)) =
      optEntry (key ≠ "") "inp_key" ++
        (paramItem "active" "inp_active" :: updateItems opType scn).flatMap
          (fun it => it.1.value.params) := by
  have hitems := assigns_updateItems opType scn
  have htail : placeholders (itemToks (paramItem "active" "inp_active") ++
      (moreItems (updateItems opType scn) ++ [.word "RETURN", .word "scn"])) =
      (paramItem "active" "inp_active" :: updateItems opType scn).flatMap
        (fun it => it.1.value.params) := by
    rw [placeholders_itemToks (hitems _ (by simp)),
      placeholders_moreItems fun it hit => hitems it (by simp [hit]), List.flatMap_cons]
    simp [placeholders]
  rw [lex_update, ← htail, optEntry]
  by_cases hkey : key ≠ ""
  · rw [if_pos hkey, if_pos hkey]
    rfl
  · rw [if_neg hkey, if_neg hkey]
    rfl

lemma placeholders_conditionToks (scn : SceneDocument R) (toks : List Token) :
    placeholders (conditionToks scn ++ toks) =
      ((if scn.numTags > 0 then ["inp_tags"] else []) ++
        if HasPosition scn then ["inp_lat", "inp_lat", "inp_long", "inp_distance"] else []) ++
      placeholders toks := by
  rw [conditionToks]
  by_cases htags : scn.numTags > 0 <;> by_cases hpos : HasPosition scn <;>
    simp only [htags, hpos, if_true, if_false] <;> rfl

lemma placeholders_retrieve (opType : ℤ) (scn : SceneDocument R) :
    placeholders (lex (generateSceneCrudQuery "" .getQueryType opType scn))
      = (retrieveStatement scn).params := by
  rw [lex_retrieve, params_retrieveStatement]
  show placeholders (propertyToks (retrieveEntries scn) ++ _) = _
  rw [placeholders_propertyToks, List.append_assoc]
  refine congrArg _ ?_
  show placeholders (conditionToks scn ++ pageToks) = _
  rw [placeholders_conditionToks]
  rfl

lemma placeholders_retrieve_key {key : String} (hkey : key ≠ "") (opType : ℤ)
    (scn : SceneDocument R) :
    placeholders (lex (generateSceneCrudQuery key .getQueryType opType scn))
      = "inp_key" :: (visibility scn).map Prod.snd := by
  rw [lex_retrieve_key hkey]
  show placeholders (propertyToks (("key", "inp_key") :: visibility scn) ++ _) = _
  rw [placeholders_propertyToks]
  exact List.append_nil _

omit [Field R] [LinearOrder R] in
lemma lookup_isSome_iff {params : Params R} {p : String} :
    (params.lookup p).isSome ↔ p ∈ params.map Prod.fst := by
  rw [List.lookup_isSome_iff, List.mem_map]
  exact ⟨fun ⟨q, hq, hp⟩ => ⟨q, hq, (eq_of_beq hp).symm⟩,
    fun ⟨q, hq, hp⟩ => ⟨q, hq, beq_of_eq hp.symm⟩⟩

/-- Every parameter the text names is a key of the map, exactly for a covered
call. -/
theorem placeholders_given_iff [IsStrictOrderedRing R] {c : BuilderCall R} (hc : Passed c) :
    (∀ p ∈ placeholders (lex c.query.text), p ∈ c.query.params.map Prod.fst) ↔ c.Covered := by
  cases hc with
  | @create uuid scn h =>
      rw [BuilderCall.query, placeholders_create h]
      exact params_create_given h scn
  | @update opType scn h =>
      have hsent : ∀ p ∈ optEntry (scn.key ≠ "") "inp_key",
          p ∈ (generateSceneQueryParameters scn.key .updateQueryType (some scn)).map Prod.fst := by
        intro p hp
        obtain ⟨hkey, rfl⟩ := mem_optEntry.mp hp
        rw [generateSceneQueryParameters, names_parameters]
        simp [mem_optEntry, hkey]
      rw [BuilderCall.query, placeholders_update, List.forall_mem_append]
      exact (and_iff_right hsent).trans (params_updateItems_given scn.key opType scn)
  | @retrieve objMsg scn h =>
      by_cases hkey : scn.key = ""
      · have hgiven := given_retrieve objMsg hkey h
        simp only [lookup_isSome_iff] at hgiven
        show _ ↔ (scn.key = "" → DistanceSent scn)
        rw [forall_prop_of_true hkey, ← hgiven, BuilderCall.query]
        simp only [hkey, placeholders_retrieve]
        simp only [retrieveSceneQuery, hkey]
      · have hgiven : ∀ p ∈ "inp_key" :: (visibility scn).map Prod.snd,
            ((retrieveSceneQuery objMsg scn).params.lookup p).isSome := by
          rw [List.forall_mem_cons, lookup_key objMsg hkey]
          exact ⟨rfl, given_visibility objMsg h⟩
        simp only [lookup_isSome_iff] at hgiven
        rw [BuilderCall.query, placeholders_retrieve_key hkey]
        exact iff_of_true hgiven fun hempty => absurd hempty hkey

/-- A position south of anything the map has a parameter for. -/
def offTheMap : SceneDocument ℚ := { key := "scene1", latitude := -10000 }

theorem placeholders_given_offTheMap :
    ¬ ∀ c : BuilderCall ℚ, Passed c →
      ∀ p ∈ placeholders (lex c.query.text), p ∈ c.query.params.map Prod.fst := by
  intro h
  have hkey : newSceneKey "" offTheMap ≠ "" := by decide
  have hgiven := h _ (.create hkey)
  rw [BuilderCall.query, placeholders_create hkey] at hgiven
  exact absurd ((params_create_given hkey offTheMap).mp hgiven) (by decide)

/-- A position the text and the map both have. -/
def onTheMap : SceneDocument ℚ := { key := "scene1", latitude := 12 }

theorem placeholders_given_onTheMap :
    let c : BuilderCall ℚ := ⟨newSceneKey "" onTheMap, .createQueryType, opAppend, onTheMap, 0, 0⟩
    ∀ p ∈ placeholders (lex c.query.text), p ∈ c.query.params.map Prod.fst :=
  (placeholders_given_iff (.create (by decide))).mpr (by decide)

end Calls

/-! ### The intended grammar -/

/-- The conditions of a query. -/
inductive Condition where
  | tags | distance

def Condition.toks : Condition → List Token
  | .tags => tagsToks
  | .distance => distanceToks

/-- What follows the pattern: the assignments of an update, at least one, or a
conjunction of conditions, which may be empty. -/
inductive Clause where
  | set (it : SetItem × List Token) (its : List (SetItem × List Token))
      (h : ∀ i ∈ it :: its, Assigns i)
  | conditions (cs : List Condition)

def Clause.toks : Clause → List Token
  | .set it its _ => .word "SET" :: (itemToks it ++ moreItems its)
  | .conditions [] => []
  | .conditions (c :: cs) =>
      .word "WHERE" :: (c.toks ++ cs.flatMap fun c => .word "AND" :: c.toks)

/-- A sentence of the intended grammar: one scene is created or matched, by
properties no two of which are the same. -/
structure Sentence where
  creates : Bool
  entries : List (String × String)
  clause : Clause
  paged : Bool
  distinct : (entries.map Prod.fst).Nodup
  named : ∀ e ∈ entries, e.1 ∉ keywords

namespace Sentence

def toks (s : Sentence) : List Token :=
  .word (if s.creates then "CREATE" else "MATCH") :: .lparen :: .word "scn" :: .colon ::
    .word "Scene" :: (propertyToks s.entries ++ .rparen :: (s.clause.toks ++
      if s.paged then pageToks else [.word "RETURN", .word "scn"]))

/-- The form for a query: created or matched, with assignments exactly for an
update, and paged exactly for a retrieve query without a key. -/
def Fits (s : Sentence) (key : String) (crudOp : CrudOp) : Prop :=
  (s.creates ↔ crudOp = .createQueryType) ∧
    ((∃ it its h, s.clause = .set it its h) ↔ crudOp = .updateQueryType) ∧
    (s.paged ↔ crudOp = .getQueryType ∧ key = "")

end Sentence

/-! ### Brackets and commas of a sentence -/

lemma closed_propertyToks (es : List (String × String)) : Closed (propertyToks es) := by
  cases es with
  | nil => exact .nil
  | cons e es =>
      have h := ((Closed.entryToks e).append (.moreEntries es)).brace
      rwa [List.append_assoc] at h

lemma Assigns.closed {it : SetItem × List Token} (h : Assigns it) : Closed (itemToks it) := by
  cases h <;> exact fun _ _ => rfl

lemma Condition.closed (c : Condition) : Closed c.toks := by
  cases c <;> exact fun _ _ => rfl

lemma Clause.closed (c : Clause) : Closed c.toks := by
  match c with
  | .set it its h =>
      have hmore : Closed (moreItems its) := Closed.flatMap fun i hi rest st =>
        (h i (by simp [hi])).closed rest st
      exact .word _ ((h it (by simp)).closed.append hmore)
  | .conditions [] => exact .nil
  | .conditions (c :: cs) => exact .word _ (c.closed.append (.flatMap fun c _ => c.closed.word _))

/-- The brackets of a sentence are balanced. -/
theorem Sentence.wellBracketed (s : Sentence) : WellBracketed s.toks := by
  show closing (propertyToks s.entries ++ _) [.rparen] = some []
  rw [closed_propertyToks]
  show closing (s.clause.toks ++ _) [] = some []
  rw [s.clause.closed]
  split <;> rfl

/-- A property map stands between words and a bracket. -/
lemma separateAfter_propertyToks {es : List (String × String)} (hes : ∀ e ∈ es, e.1 ∉ keywords)
    (toks : List Token) :
    SeparateAfter (.word "Scene") (propertyToks es ++ .rparen :: toks)
      ↔ SeparateAfter .rparen toks := by
  cases es with
  | nil => simp only [propertyToks, List.nil_append, SeparateAfter, reduceCtorEq, false_imp_iff,
      true_and]
  | cons e es =>
      have hmore := separateAfter_moreEntries (fun e' he' => hes e' (List.mem_cons_of_mem _ he'))
        ([.rbrace] ++ .rparen :: toks)
      rw [propertyToks, List.cons_append, List.append_assoc, List.append_assoc]
      simp only [entryToks, List.cons_append, List.nil_append, SeparateAfter, reduceCtorEq,
        false_imp_iff, true_and] at hmore ⊢
      exact hmore

/-- An assignment starts like an element of a list, and ends like one. -/
lemma Assigns.separateAfter {it : SetItem × List Token} (h : Assigns it) (t : Token)
    (toks : List Token) :
    SeparateAfter t (itemToks it ++ toks) ↔ SeparateAfter .rparen toks := by
  have hscn : (Token.word "scn").StartsElement := by decide
  have hlist : Token.lbrack.StartsElement := by decide
  cases h with
  | param _ =>
      simp only [itemToks, paramItem, List.cons_append, List.nil_append, SeparateAfter, hscn,
        reduceCtorEq, false_imp_iff, implies_true, true_and, separateAfter_closes (.inr (.inl rfl))]
  | @append prop p hprop =>
      have hends : (Token.word prop).EndsElement := by
        have hwords : ∀ w ∈ updatedProperties, w ∉ keywords := by decide
        exact .inr (hwords prop hprop)
      simp only [itemToks, appendItem, List.cons_append, List.nil_append, SeparateAfter, hscn,
        hlist, hends, reduceCtorEq, false_imp_iff, implies_true, true_and,
        separateAfter_closes (.inr (.inl rfl))]
  | remove _ _ =>
      simp only [itemToks, removeItem, List.cons_append, List.nil_append, SeparateAfter, hscn,
        reduceCtorEq, false_imp_iff, implies_true, true_and]

lemma separateAfter_moreItems {its : List (SetItem × List Token)} (h : ∀ i ∈ its, Assigns i)
    (toks : List Token) :
    SeparateAfter .rparen (moreItems its ++ toks) ↔ SeparateAfter .rparen toks := by
  induction its with
  | nil => rfl
  | cons it its ih =>
      have hit := (h it (by simp)).separateAfter .comma (moreItems its ++ toks)
      have hends : Token.rparen.EndsElement := .inl (.inl rfl)
      rw [moreItems, List.flatMap_cons, ← moreItems, List.append_assoc]
      simp only [List.cons_append, SeparateAfter, hends, implies_true, reduceCtorEq, false_imp_iff,
        true_and]
      exact hit.trans (ih fun i hi => h i (by simp [hi]))

/-- A condition has no comma. -/
lemma Condition.separateAfter (c : Condition) (w : String) (toks : List Token) :
    SeparateAfter (.word w) (c.toks ++ toks) ↔ SeparateAfter .rparen toks := by
  cases c with
  | tags =>
      simp only [Condition.toks, tagsToks, List.cons_append, List.nil_append, SeparateAfter,
        reduceCtorEq, false_imp_iff, true_and]
  | distance =>
      simp only [Condition.toks, distanceToks, List.cons_append, List.nil_append, SeparateAfter,
        reduceCtorEq, false_imp_iff, true_and, separateAfter_closes (.inr (.inl rfl))]

lemma Clause.separateAfter (c : Clause) (w : String) (toks : List Token) :
    SeparateAfter .rparen (c.toks ++ .word w :: toks) ↔ SeparateAfter (.word w) toks := by
  have hword : SeparateAfter .rparen (.word w :: toks) ↔ SeparateAfter (.word w) toks := by
    simp only [SeparateAfter, reduceCtorEq, false_imp_iff, true_and]
  cases c with
  | set it its h =>
      rw [Clause.toks, List.cons_append, List.append_assoc]
      simp only [SeparateAfter, reduceCtorEq, false_imp_iff, true_and]
      rw [(h it (by simp)).separateAfter, separateAfter_moreItems fun i hi => h i (by simp [hi])]
      exact hword
  | conditions cs =>
      have hmore : ∀ cs : List Condition, SeparateAfter .rparen
          ((cs.flatMap fun c => .word "AND" :: c.toks) ++ .word w :: toks) ↔
            SeparateAfter (.word w) toks := by
        intro cs
        induction cs with
        | nil => exact hword
        | cons c cs ih =>
            rw [List.flatMap_cons, List.append_assoc, List.cons_append]
            simp only [SeparateAfter, reduceCtorEq, false_imp_iff, true_and]
            rw [c.separateAfter]
            exact ih
      cases cs with
      | nil => exact hword
      | cons c cs =>
          rw [Clause.toks, List.cons_append, List.append_assoc]
          simp only [SeparateAfter, reduceCtorEq, false_imp_iff, true_and]
          rw [c.separateAfter]
          exact hmore cs

/-- The commas of a sentence separate. -/
theorem Sentence.separate (s : Sentence) : CommasSeparate s.toks := by
  rw [Sentence.toks, CommasSeparate]
  simp only [SeparateAfter, ne_eq, reduceCtorEq, not_false_eq_true, false_imp_iff, true_and]
  rw [separateAfter_propertyToks s.named]
  split
  · rw [pageToks, s.clause.separateAfter]
    decide
  · rw [s.clause.separateAfter]
    decide

/-! ### The texts of the builder -/

section Texts

variable {R : Type} [Field R] [LinearOrder R]

/-- The properties a scene can be created with. -/
def createdProperties : List String :=
  ["key", "public", "active", "name", "latitude", "longitude", "region", "description", "user",
    "thumbnail", "assets", "tags"]

lemma createEntries_sublist (scn : SceneDocument R) :
    ((("key", "inp_key") :: createEntries scn).map Prod.fst).Sublist createdProperties := by
  have hopt : ∀ (c : Prop) [Decidable c] (name p : String),
      ((optEntry c (name, p)).map Prod.fst).Sublist [name] :=
    fun c _ name p => (optEntry_sublist c (name, p)).map Prod.fst
  simp only [createEntries, List.map_cons, List.map_append, List.cons_append, List.append_assoc]
  refine .cons_cons _ (.cons_cons _ (.cons_cons _ ?_))
  exact (hopt ..).append ((hopt ..).append ((hopt ..).append ((hopt ..).append ((hopt ..).append
    ((hopt ..).append ((hopt ..).append ((hopt ..).append (hopt ..))))))))

/-- The create text as a sentence. -/
def createSentence (scn : SceneDocument R) : Sentence where
  creates := true
  entries := ("key", "inp_key") :: createEntries scn
  clause := .conditions []
  paged := false
  distinct := (createEntries_sublist scn).nodup (by decide)
  named e he := by
    have hall : ∀ w ∈ createdProperties, w ∉ keywords := by decide
    exact hall e.1 ((createEntries_sublist scn).subset (List.mem_map_of_mem he))

lemma createSentence_toks {key : String} (hkey : key ≠ "") (opType : ℤ)
    (scn : SceneDocument R) :
    lex (generateSceneCrudQuery key .createQueryType opType scn) = (createSentence scn).toks := by
  rw [lex_create hkey]
  simp [Sentence.toks, createSentence, propertyToks, Clause.toks]

/-- The update text of a scene with a key as a sentence. -/
def updateSentence (opType : ℤ) (scn : SceneDocument R) : Sentence where
  creates := false
  entries := [("key", "inp_key")]
  clause := .set (paramItem "active" "inp_active") (updateItems opType scn)
    (assigns_updateItems opType scn)
  paged := false
  distinct := by decide
  named := by decide

lemma updateSentence_toks {key : String} (hkey : key ≠ "") (opType : ℤ)
    (scn : SceneDocument R) :
    lex (generateSceneCrudQuery key .updateQueryType opType scn)
      = (updateSentence opType scn).toks := by
  rw [lex_update, if_pos hkey]
  simp [Sentence.toks, updateSentence, propertyToks, Clause.toks, moreEntries]

omit [LinearOrder R] in
lemma visibility_names (scn : SceneDocument R) :
    ((visibility scn).map Prod.fst).Nodup ∧
      ∀ w ∈ (visibility scn).map Prod.fst, w ∈ ["user", "public"] := by
  rw [visibility]
  split
  · decide
  · split <;> decide

/-- The text of a query by key as a sentence. -/
def retrieveKeySentence (scn : SceneDocument R) : Sentence where
  creates := false
  entries := ("key", "inp_key") :: visibility scn
  clause := .conditions []
  paged := false
  distinct := by
    obtain ⟨hnodup, hall⟩ := visibility_names scn
    rw [List.map_cons, List.nodup_cons]
    exact ⟨fun hmem => absurd (hall _ hmem) (by decide), hnodup⟩
  named e he := by
    have hwords : ∀ w ∈ ["user", "public"], w ∉ keywords := by decide
    rcases List.mem_cons.mp he with rfl | he
    · decide
    · exact hwords _ ((visibility_names scn).2 _ (List.mem_map_of_mem he))

lemma retrieveKeySentence_toks {key : String} (hkey : key ≠ "") (opType : ℤ)
    (scn : SceneDocument R) :
    lex (generateSceneCrudQuery key .getQueryType opType scn)
      = (retrieveKeySentence scn).toks := by
  rw [lex_retrieve_key hkey]
  rfl

/-- The conditions of a query without a key. -/
def retrieveConditions (scn : SceneDocument R) : List Condition :=
  optEntry (scn.numTags > 0) .tags ++ optEntry (HasPosition scn) .distance

lemma retrieveConditions_toks (scn : SceneDocument R) :
    (Clause.conditions (retrieveConditions scn)).toks = conditionToks scn := by
  rw [retrieveConditions, conditionToks, optEntry, optEntry]
  by_cases htags : scn.numTags > 0 <;> by_cases hpos : HasPosition scn <;>
    simp only [htags, hpos, if_true, if_false] <;> rfl

omit [LinearOrder R] in
lemma retrieveEntries_names (scn : SceneDocument R) :
    ((retrieveEntries scn).map Prod.fst).Nodup ∧
      ∀ w ∈ (retrieveEntries scn).map Prod.fst, w ∈ ["name", "region", "user", "public"] := by
  obtain ⟨hnodup, hall⟩ := visibility_names scn
  have hother : ∀ w ∈ (visibility scn).map Prod.fst, w ≠ "name" ∧ w ≠ "region" := fun w hw => by
    have hne : ∀ w ∈ ["user", "public"], w ≠ "name" ∧ w ≠ "region" := by decide
    exact hne w (hall w hw)
  rw [retrieveEntries]
  split
  · refine ⟨?_, ?_⟩
    · rw [List.map_append, List.nodup_append]
      refine ⟨?_, hnodup, ?_⟩
      · have hsub : ((optEntry (scn.name ≠ "") ("name", "inp_name") ++
            optEntry (scn.region ≠ "") ("region", "inp_region")).map Prod.fst).Sublist
              ["name", "region"] :=
          ((optEntry_sublist _ _).append (optEntry_sublist _ _)).map Prod.fst
        exact hsub.nodup (by decide)
      · rintro w hw w' hw' rfl
        obtain ⟨hname, hregion⟩ := hother w hw'
        simp only [List.map_append, List.mem_append, List.mem_map, mem_optEntry] at hw
        obtain ⟨e, ⟨-, rfl⟩, rfl⟩ | ⟨e, ⟨-, rfl⟩, rfl⟩ := hw
        · exact hname rfl
        · exact hregion rfl
    · intro w hw
      simp only [List.map_append, List.mem_append] at hw
      obtain (hw | hw) | hw := hw
      · obtain ⟨e, he, rfl⟩ := List.mem_map.mp hw
        obtain ⟨-, rfl⟩ := mem_optEntry.mp he
        decide
      · obtain ⟨e, he, rfl⟩ := List.mem_map.mp hw
        obtain ⟨-, rfl⟩ := mem_optEntry.mp he
        decide
      · exact List.mem_cons_of_mem _ (List.mem_cons_of_mem _ (hall w hw))
  · exact ⟨List.nodup_nil, fun w hw => absurd hw List.not_mem_nil⟩

/-- The text of a query without a key as a sentence. -/
def retrieveSentence (scn : SceneDocument R) : Sentence where
  creates := false
  entries := retrieveEntries scn
  clause := .conditions (retrieveConditions scn)
  paged := true
  distinct := (retrieveEntries_names scn).1
  named e he := by
    have hwords : ∀ w ∈ ["name", "region", "user", "public"], w ∉ keywords := by decide
    exact hwords _ ((retrieveEntries_names scn).2 _ (List.mem_map_of_mem he))

lemma retrieveSentence_toks (opType : ℤ) (scn : SceneDocument R) :
    lex (generateSceneCrudQuery "" .getQueryType opType scn) = (retrieveSentence scn).toks := by
  rw [lex_retrieve, ← retrieveConditions_toks]
  rfl

/-- Without a key the update text closes a property map it did not open. -/
lemma update_keyless_unbalanced (opType : ℤ) (scn : SceneDocument R) :
    ¬ WellBracketed (lex (generateSceneCrudQuery "" .updateQueryType opType scn)) := by
  rw [lex_update, if_neg (by simp)]
  exact fun h => Option.some_ne_none _ h.symm

/-- The text of a call that is let through is a sentence, balanced and with its
commas in place, exactly if it is no update without a key. -/
theorem text_sentence_iff {c : BuilderCall R} (hc : Passed c) :
    ((∃ s : Sentence, s.Fits c.key c.crudOp ∧ lex c.query.text = s.toks) ∧
        WellBracketed (lex c.query.text) ∧ CommasSeparate (lex c.query.text)) ↔
      ¬ (c.crudOp = .updateQueryType ∧ c.key = "") := by
  have hsentence : ∀ s : Sentence, s.Fits c.key c.crudOp → lex c.query.text = s.toks →
      ((∃ s : Sentence, s.Fits c.key c.crudOp ∧ lex c.query.text = s.toks) ∧
        WellBracketed (lex c.query.text) ∧ CommasSeparate (lex c.query.text)) :=
    fun s hfits htoks => ⟨⟨s, hfits, htoks⟩, by rw [htoks]; exact s.wellBracketed,
      by rw [htoks]; exact s.separate⟩
  cases hc with
  | @create uuid scn h =>
      have hcreate : CrudOp.createQueryType ≠ .updateQueryType := by decide
      refine iff_of_true (hsentence (createSentence scn) ?_ (createSentence_toks h opAppend scn))
        fun hupd => hcreate hupd.1
      simp [Sentence.Fits, createSentence]
  | @update opType scn h =>
      by_cases hkey : scn.key = ""
      · refine iff_of_false (fun hall => update_keyless_unbalanced opType scn ?_)
          (not_not.mpr ⟨rfl, hkey⟩)
        have hbalanced := hall.2.1
        rwa [BuilderCall.query, hkey] at hbalanced
      · refine iff_of_true (hsentence (updateSentence opType scn) ?_
          (updateSentence_toks hkey opType scn)) fun hupd => hkey hupd.2
        refine ⟨by simp [updateSentence], iff_of_true ⟨_, _, _, rfl⟩ rfl, by simp [updateSentence]⟩
  | @retrieve objMsg scn h =>
      have hget : CrudOp.getQueryType ≠ .updateQueryType := by decide
      by_cases hkey : scn.key = ""
      · refine iff_of_true (hsentence (retrieveSentence scn) ?_ ?_) fun hupd => hget hupd.1
        · simp [Sentence.Fits, retrieveSentence, hkey]
        · rw [BuilderCall.query, hkey]
          exact retrieveSentence_toks opAppend scn
      · refine iff_of_true (hsentence (retrieveKeySentence scn) ?_
          (retrieveKeySentence_toks hkey opAppend scn)) fun hupd => hget hupd.1
        simp [Sentence.Fits, retrieveKeySentence, hkey]

end Texts

/-- An update that names a scene by no key. -/
def keyless : SceneDocument ℚ := { name := "lobby" }

theorem text_sentence_keyless :
    ¬ ∀ c : BuilderCall ℚ, Passed c →
      (∃ s : Sentence, s.Fits c.key c.crudOp ∧ lex c.query.text = s.toks) ∧
        WellBracketed (lex c.query.text) ∧ CommasSeparate (lex c.query.text) :=
  fun h => update_keyless_unbalanced opAppend keyless
    (h ⟨"", .updateQueryType, opAppend, keyless, 0, 0⟩
      (.update opAppend (by decide : ¬ noUpdateFields keyless))).2.1

theorem text_sentence_onTheMap :
    let c : BuilderCall ℚ := ⟨onTheMap.key, .updateQueryType, opAppend, onTheMap, 0, 0⟩
    (∃ s : Sentence, s.Fits c.key c.crudOp ∧ lex c.query.text = s.toks) ∧
      WellBracketed (lex c.query.text) ∧ CommasSeparate (lex c.query.text) :=
  (text_sentence_iff (.update opAppend (by decide))).mpr (by decide)

end CrazyIvan
