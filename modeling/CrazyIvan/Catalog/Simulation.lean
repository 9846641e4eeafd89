import CrazyIvan.Catalog.Refinement

/-!
The responses of the server are those of the catalog, over every run.

* `Represents.matches_iff`: the filter of a query asks for the documents.
* `response_catalog`: the response to a retrieve message.
* `catalog_refines`: whole runs, with what they give out.
-/

namespace CrazyIvan

open Cypher Resumption

/-! ### Queries -/

section Queries

variable {R : Type} [Field R] [LinearOrder R]

omit [Field R] [LinearOrder R] in
lemma storedText_eq_some_iff {s t : String} (ht : t ≠ "") :
    (storedText s : Option (Value R)) = some (.str t) ↔ s = t := by
  rw [storedText]
  by_cases hs : s = ""
  · simp [hs, ht.symm]
  · simp [hs]

namespace Represents

variable {q d : SceneDocument R} {n : Node R} (h : Represents n.props d)
include h

lemma visible_iff (hacc : retrieveAccepted q) : Visible q n ↔ q.VisibleTo d := by
  rw [Visible, SceneDocument.VisibleTo]
  cases hp : q.isPublic with
  | true => simp [h.isPublic]
  | false =>
      have huser : q.user ≠ "" := by simpa [retrieveAccepted, hp] using hacc
      rw [if_neg Bool.false_ne_true, if_neg Bool.false_ne_true, h.user,
        storedText_eq_some_iff huser]

variable (fn : String → R → R)

lemma isTrue_tags (hkey : q.key = "") (htags : q.numTags > 0) :
    Value.isTrue (tagsCond.eval fn (retrieveSceneQuery {} q).params [("scn", .node n)]) = true ↔
      ∀ t ∈ q.tags, t ∈ d.tags := by
  have hlookup := (lookup_conditions ({} : SceneList R) hkey).1 htags
  obtain ⟨t, ts, hts⟩ : ∃ t ts, q.tags = t :: ts :=
    List.exists_cons_of_ne_nil (List.length_pos_iff.mp htags)
  rcases h.tags with hstored | ⟨hstored, hnone⟩
  · simp [tagsCond, Expr.eval, pathNodes, hlookup, BinOp.eval, List.lookup_cons, hstored,
      Value.isTrue]
  · have ht : t ∈ q.tags := by rw [hts]; exact List.mem_cons_self
    have hmissing : ¬ ∀ t ∈ q.tags, t ∈ d.tags := fun hall => by simpa [hnone] using hall t ht
    rw [iff_false_right hmissing]
    simp [tagsCond, Expr.eval, pathNodes, hlookup, BinOp.eval, List.lookup_cons, hstored,
      Value.isTrue]
    exact ⟨t, ht⟩

lemma isTrue_distance [IsStrictOrderedRing R] (hkey : q.key = "") (hpos : HasPosition q)
    (hsent : DistanceSent q) :
    Value.isTrue (distanceCond.eval fn (retrieveSceneQuery {} q).params [("scn", .node n)]) = true ↔
      q.Near fn d := by
  obtain ⟨-, hlat, hlong, hdistance⟩ := lookup_conditions ({} : SceneList R) hkey
  have hnorth : q.latitude > -9999 := lt_trans (by norm_num) hpos.1
  have heast : q.longitude > -9999 := lt_trans (by norm_num) hpos.2.1
  rw [if_pos hnorth] at hlat
  rw [if_pos heast] at hlong
  rw [if_pos (hsent hpos)] at hdistance
  have hlatitude := h.latitude
  have hlongitude := h.longitude
  rw [storedCoordinate] at hlatitude hlongitude
  rw [SceneDocument.Near]
  by_cases hdlat : d.latitude = -9999
  · simp [distanceCond, Expr.eval, hlat, hlong, hdistance, BinOp.eval, hlatitude, hdlat,
      Value.isTrue, Value.toNum]
  by_cases hdlong : d.longitude = -9999
  · simp [distanceCond, Expr.eval, hlat, hlong, hdistance, BinOp.eval, hlatitude, hdlat,
      hlongitude, hdlong, Value.isTrue, Value.toNum]
  · simp [distanceCond, Expr.eval, hlat, hlong, hdistance, BinOp.eval, hlatitude, hdlat,
      hlongitude, hdlong, Value.isTrue, Value.toNum]

/-- The property map of a query. -/
lemma matchProps_iff (hacc : retrieveAccepted q) :
    matchProps (retrieveSceneQuery {} q).params (retrieveEntries q) n.props = true ↔
      (q.name ≠ "" → d.name = q.name) ∧ (q.region ≠ "" → d.region = q.region) ∧
        (q.name ≠ "" ∨ q.region ≠ "" → q.VisibleTo d) := by
  have happend : ∀ es es' : List (String × String),
      matchProps (retrieveSceneQuery {} q).params (es ++ es') n.props = true ↔
        matchProps (retrieveSceneQuery {} q).params es n.props = true ∧
          matchProps (retrieveSceneQuery {} q).params es' n.props = true := fun es es' => by
    rw [matchProps, List.all_append, Bool.and_eq_true, ← matchProps, ← matchProps]
  have hvisible : matchProps (retrieveSceneQuery {} q).params (visibility q) n.props = true ↔
      q.VisibleTo d := by
    rw [matchProps_visibility _ hacc, decide_eq_true_iff, h.visible_iff hacc]
  have hentry : ∀ (s t name p : String), n.props name = storedText s →
      (t ≠ "" → (retrieveSceneQuery {} q).params.lookup p = some (.str t)) →
      (matchProps (retrieveSceneQuery {} q).params (optEntry (t ≠ "") (name, p)) n.props = true ↔
        (t ≠ "" → s = t)) := by
    intro s t name p hprop hlookup
    by_cases ht : t = ""
    · simp [ht, matchProps, optEntry]
    · rw [optEntry, if_pos ht]
      simp [matchProps, hlookup ht, hprop, storedText_eq_some_iff ht, ht]
  have hname : q.name ≠ "" →
      (retrieveSceneQuery {} q).params.lookup "inp_name" = some (.str q.name) := fun hne => by
    simp [retrieveSceneQuery, generateQueryParameters, List.lookup_append, lookup_optParam,
      List.lookup_cons, hne]
  have hregion : q.region ≠ "" →
      (retrieveSceneQuery {} q).params.lookup "inp_region" = some (.str q.region) := fun hne => by
    simp [retrieveSceneQuery, generateQueryParameters, List.lookup_append, lookup_optParam,
      List.lookup_cons, hne]
  rw [retrieveEntries]
  by_cases hfilter : q.name ≠ "" ∨ q.region ≠ ""
  · rw [if_pos hfilter, happend, happend, hvisible, hentry _ _ _ _ h.name hname,
      hentry _ _ _ _ h.region hregion, and_assoc]
    simp [hfilter]
  · rw [if_neg hfilter]
    rw [not_or, not_not, not_not] at hfilter
    simp [matchProps, hfilter]

/-- The filter of a query asks for the documents. -/
theorem matches_iff [IsStrictOrderedRing R] (hkey : q.key = "") (hacc : retrieveAccepted q)
    (hsent : DistanceSent q) (hlabel : n.label = "Scene") :
    Matches fn q n = true ↔ q.Answers fn d := by
  have hfits : NodePat.fits (retrieveSceneQuery {} q).params
      ⟨"scn", some "Scene", retrieveEntries q⟩ n
        = matchProps (retrieveSceneQuery {} q).params (retrieveEntries q) n.props := by
    simp [NodePat.fits, hlabel]
  have hcond : holds fn (retrieveSceneQuery {} q).params (retrieveCond q) [("scn", .node n)] = true
      ↔ (∀ t ∈ q.tags, t ∈ d.tags) ∧ (HasPosition q → q.Near fn d) := by
    rw [retrieveCond]
    by_cases htags : q.numTags > 0
    · by_cases hpos : HasPosition q
      · rw [if_pos htags, if_pos hpos, holds, Option.all_some, Expr.eval, isTrue_and,
          Bool.and_eq_true, h.isTrue_tags fn hkey htags, h.isTrue_distance fn hkey hpos hsent]
        simp [hpos]
      · rw [if_pos htags, if_neg hpos, holds, Option.all_some, h.isTrue_tags fn hkey htags]
        simp [hpos]
    · have hnone : q.tags = [] := List.length_eq_zero_iff.mp (Nat.le_zero.mp (not_lt.mp htags))
      by_cases hpos : HasPosition q
      · rw [if_neg htags, if_pos hpos, holds, Option.all_some,
          h.isTrue_distance fn hkey hpos hsent]
        simp [hpos, hnone]
      · rw [if_neg htags, if_neg hpos, holds_none]
        simp [hpos, hnone]
  rw [Matches, Bool.and_eq_true, hfits, h.matchProps_iff hacc, hcond, SceneDocument.Answers,
    and_assoc, and_assoc]

end Represents

end Queries

/-! ### Responses -/

section Responses

variable {R : Type} [Field R] [LinearOrder R] {fn : String → R → R} {env : Env R} {g : Graph R}

namespace Cataloged

omit [LinearOrder R] in
/-- The scenes that are chosen by their documents are the chosen documents. -/
lemma map_documentOf_filter (p : Node R → Bool) (c : SceneDocument R → Prop) [DecidablePred c]
    (hp : ∀ n ∈ g.nodes, p n = true ↔ n.label = "Scene" ∧ c (documentOf n.props)) :
    (g.nodes.filter p).map (fun n => documentOf n.props)
      = (catalog g).filter fun d => decide (c d) := by
  rw [catalog, List.filter_map, List.filter_filter]
  congr 1
  refine List.filter_congr fun n hn => ?_
  rw [Bool.eq_iff_iff, hp n hn, Bool.and_eq_true, decide_eq_true_iff, Function.comp_apply,
    decide_eq_true_iff, and_comm]

/-- The scenes are in the order of their documents. -/
lemma nodeLe_iff (h : Cataloged env g) {n n' : Node R} (hn : n ∈ g.nodes)
    (hlabel : n.label = "Scene") (hn' : n' ∈ g.nodes) (hlabel' : n'.label = "Scene") :
    NodeLe "key" n n' ↔ (documentOf n.props).key ≤ (documentOf n'.props).key := by
  have hkey := (h.scene n hn hlabel).key
  have hkey' := (h.scene n' hn' hlabel').key
  rw [storedText, if_neg (h.key_ne hn hlabel)] at hkey
  rw [storedText, if_neg (h.key_ne hn' hlabel')] at hkey'
  rw [Cypher.nodeLe_iff, hkey, hkey', orderKey_str_le]

/-- The scenes of a result are its documents. -/
lemma retrieved_documents (h : Cataloged env g) (m : SceneList R) {ns : List (Node R)}
    (hns : ∀ n ∈ ns, n ∈ g.nodes ∧ n.label = "Scene") :
    retrieved env m (.rows (ns.map fun n => [.node n]))
      = .ok (foundDocuments m.transactionId (ns.map fun n => documentOf n.props)) := by
  have hread : ns.mapM (sceneOfNode env)
      = .ok (ns.map fun n => { documentOf n.props with isPublic := true }) := by
    rw [mapM_eq_ok_iff, List.forall₂_map_right_iff, List.forall₂_same]
    exact fun n hn => (h.scene n (hns n hn).1 (hns n hn).2).sceneOfNode env
  rw [retrieved_rows, hread]
  cases ns with
  | nil => rfl
  | cons n ns =>
      rw [foundDocuments, if_neg (by simp)]
      simp only [List.map_cons, List.map_map]
      rfl

/-- The response to a query by key. -/
lemma response_key (h : Cataloged env g) {m : SceneList R} {q : SceneDocument R}
    {rest : List (SceneDocument R)} (hm : m.scenes = q :: rest) (hacc : retrieveAccepted q)
    (hkey : q.key ≠ "") :
    response fn env m g = .ok (foundDocuments m.transactionId
      ((catalog g).filter fun d => d.key = q.key ∧ q.VisibleTo d)) := by
  rw [response_eq fn env hm hacc, answer_retrieve_key fn m hkey hacc,
    h.retrieved_documents m fun n hn =>
      (mem_scenes.mp (List.mem_of_mem_filter hn)).imp_right And.left,
    scenes, List.filter_filter, map_documentOf_filter _ fun d => d.key = q.key ∧ q.VisibleTo d]
  intro n hn
  rw [Bool.and_eq_true, decide_eq_true_iff, decide_eq_true_iff]
  constructor
  · rintro ⟨hvisible, hhas⟩
    exact ⟨hhas.1, (h.hasKey_iff hn hhas.1).mp hhas,
      ((h.scene n hn hhas.1).visible_iff hacc).mp hvisible⟩
  · rintro ⟨hlabel, hhas, hvisible⟩
    exact ⟨((h.scene n hn hlabel).visible_iff hacc).mpr hvisible, (h.hasKey_iff hn hlabel).mpr hhas⟩

variable [IsStrictOrderedRing R]

/-- The scenes a query matches, by their keys. -/
lemma map_documentOf_matching (h : Cataloged env g) {q : SceneDocument R} (hkey : q.key = "")
    (hacc : retrieveAccepted q) (hsent : DistanceSent q) :
    (matching fn q g).map (fun n => documentOf n.props) =
      ((catalog g).filter fun d => q.Answers fn d).insertionSort fun d d' => d.key ≤ d'.key := by
  have hscene : ∀ n ∈ g.nodes.filter (Matches fn q), n ∈ g.nodes ∧ n.label = "Scene" := by
    intro n hn
    obtain ⟨hmem, hmatches⟩ := List.mem_filter.mp hn
    rw [Matches, Bool.and_eq_true, NodePat.fits, Bool.and_eq_true] at hmatches
    exact ⟨hmem, by simpa using hmatches.1.1⟩
  rw [matching, List.map_insertionSort _ (fun d d' : SceneDocument R => d.key ≤ d'.key),
    map_documentOf_filter _ fun d => q.Answers fn d]
  · intro n hn
    constructor
    · intro hmatches
      have hlabel := (hscene n (List.mem_filter.mpr ⟨hn, hmatches⟩)).2
      exact ⟨hlabel, ((h.scene n hn hlabel).matches_iff fn hkey hacc hsent hlabel).mp hmatches⟩
    · rintro ⟨hlabel, hanswers⟩
      exact ((h.scene n hn hlabel).matches_iff fn hkey hacc hsent hlabel).mpr hanswers
  · intro n hn n' hn'
    exact h.nodeLe_iff (hscene n hn).1 (hscene n hn).2 (hscene n' hn').1 (hscene n' hn').2

/-- The response to a retrieve message is that of the catalog. -/
theorem response_catalog (h : Cataloged env g) (m : SceneList R) :
    response fn env m g = .ok (catalogResponse fn (catalog g) m) := by
  rw [catalogResponse]
  cases hm : m.scenes with
  | nil =>
      rw [response, processRetrieveMessage, hm]
      rfl
  | cons q rest =>
      rw [List.head?_cons, Option.elim_some]
      by_cases hacc : retrieveAccepted q
      · rw [if_neg (not_not.mpr hacc)]
        by_cases hkey : q.key ≠ ""
        · rw [if_pos hkey, h.response_key hm hacc hkey]
        rw [if_neg hkey]
        rw [not_not] at hkey
        by_cases hsent : DistanceSent q
        · rw [if_neg (not_not.mpr hsent), response_eq fn env hm hacc,
            answer_retrieve fn m hkey hacc hsent]
          by_cases hneg : m.startRecord < 0 ∨ m.numRecords < 0
          · rw [if_pos hneg, if_pos hneg]
            rfl
          · rw [if_neg hneg, if_neg hneg, h.retrieved_documents m, List.map_take, List.map_drop,
              h.map_documentOf_matching hkey hacc hsent]
            intro n hn
            have hmem := List.mem_of_mem_drop (List.mem_of_mem_take hn)
            rw [matching, List.mem_insertionSort, List.mem_filter, Matches, Bool.and_eq_true,
              NodePat.fits, Bool.and_eq_true] at hmem
            exact ⟨hmem.1, by simpa using hmem.2.1.1⟩
        · rw [if_pos hsent, response_eq fn env hm hacc, answer_retrieve_unsent fn m hkey hacc hsent]
          rfl
      · rw [if_pos hacc, response, processRetrieveMessage, hm]
        simp only [if_neg hacc]
        rfl

end Cataloged

end Responses

/-! ### Runs -/

section Runs

variable {R : Type} [Field R] [LinearOrder R]

/-- What a retrieve message is answered with, by the server and from the catalog. -/
def retrieval (fn : String → R → R) (env : Env R) (g : Graph R) :
    Message R → Option (Except Fail (ProcessResult R))
  | .retrieve m => some (response fn env m g)
  | _ => none

def catalogRetrieval (fn : String → R → R) (c : List (SceneDocument R)) :
    Message R → Option (Except Fail (ProcessResult R))
  | .retrieve m => some (.ok (catalogResponse fn c m))
  | _ => none

/-- Over every run of messages the server keeps the catalog, and answers from it. -/
theorem catalog_refines [IsStrictOrderedRing R] (fn : String → R → R) (env : Env R)
    (ms : List (Message R)) :
    catalog (ms.foldl (process fn env) Graph.empty) = ms.foldl catalogStep [] ∧
      outputs (process fn env) (retrieval fn env) Graph.empty ms
        = outputs catalogStep (catalogRetrieval fn) [] ms := by
  have hempty : catalog (Graph.empty : Graph R) = [] := rfl
  have hkeeps : ∀ (g : Graph R) (m : Message R), Cataloged env g →
      Cataloged env (process fn env g m) := fun g m h => h.process m
  have hfollows : ∀ (g : Graph R) (m : Message R), Cataloged env g →
      catalog (process fn env g m) = catalogStep (catalog g) m := fun g m h => h.catalog_process m
  have hanswers : ∀ (g : Graph R) (m : Message R), Cataloged env g →
      retrieval fn env g m = catalogRetrieval fn (catalog g) m := by
    intro g m h
    cases m with
    | retrieve m => exact congrArg some (h.response_catalog m)
    | request r => rfl
    | deviceGet m => rfl
  rw [← hempty]
  exact ⟨foldl_simulation hkeeps hfollows .empty ms,
    outputs_simulation hkeeps hfollows hanswers .empty ms⟩

/-- A scene is created, renamed and retrieved. -/
theorem catalog_refines_someScene :
    let ms : List (Message ℚ) := [.request (.create "" { scenes := [someScene] }),
      .request (.update { scenes := [{ key := "s", name := "n" }] }),
      .retrieve { transactionId := "t", scenes := [{ key := "s" }] }]
    catalog (ms.foldl (process (fun _ x => x) plainEnv) Graph.empty)
        = [{ key := "s", name := "n" }] ∧
      outputs (process (fun _ x => x) plainEnv) (retrieval (fun _ x => x) plainEnv) Graph.empty ms
        = [none, none, some (.ok (foundResult "t" [{ key := "s", name := "n" }]))] := by
  intro ms
  obtain ⟨hcatalog, hout⟩ := catalog_refines (fun _ x => x) plainEnv ms
  have hfold : ms.foldl catalogStep [] = [{ key := "s", name := "n" }] := rfl
  exact ⟨hcatalog.trans hfold, hout.trans rfl⟩

end Runs

end CrazyIvan
