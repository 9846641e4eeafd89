import CrazyIvan.Network.Retrieval

/-!
Scenes that are neither public nor of the user who asks.

* `Hidden`, `AgreeOutside`: such scenes, and graphs that differ in nothing else.
* `response_congr`: a guarded message is answered alike in such graphs.
* `crowd`, `response_crowd`: any other is answered from hidden scenes.
* `retrieve_independent_iff`: both together.
-/

namespace CrazyIvan

open Cypher Resumption

section Hidden

variable {R : Type} [Field R] [LinearOrder R]

/-- A scene that is not public and not of the user of a message. -/
def Hidden (scn : SceneDocument R) (n : Node R) : Prop :=
  n.label = "Scene" ∧ n.props "public" ≠ some (.bool true) ∧
    n.props "user" ≠ some (.str scn.user)

instance (scn : SceneDocument R) (n : Node R) : Decidable (Hidden scn n) := by
  unfold Hidden; infer_instance

/-- Two graphs that differ only in hidden scenes. -/
structure AgreeOutside (scn : SceneDocument R) (g g' : Graph R) : Prop where
  nodes : (g.nodes.filter fun n => ¬ Hidden scn n) = g'.nodes.filter fun n => ¬ Hidden scn n
  triples : (g.triples.filter fun t => ¬ Hidden scn t.1 ∧ ¬ Hidden scn t.2.2) =
    g'.triples.filter fun t => ¬ Hidden scn t.1 ∧ ¬ Hidden scn t.2.2

/-- A filter that lets no hidden scene through sees no difference. -/
lemma AgreeOutside.filter_eq {scn : SceneDocument R} {g g' : Graph R}
    (h : AgreeOutside scn g g') {p : Node R → Bool} (hp : ∀ n, p n = true → ¬ Hidden scn n) :
    g.nodes.filter p = g'.nodes.filter p := by
  have hinner : ∀ l : List (Node R), l.filter p = (l.filter fun n => ¬ Hidden scn n).filter p := by
    intro l
    rw [List.filter_filter]
    refine List.filter_congr fun n _ => ?_
    cases hpn : p n with
    | false => simp
    | true => simp [hp n hpn]
  rw [hinner, h.nodes, ← hinner]

omit [LinearOrder R] in
lemma Visible.not_hidden {scn : SceneDocument R} {n : Node R} (h : Visible scn n) :
    ¬ Hidden scn n := by
  rintro ⟨-, hpublic, huser⟩
  rw [Visible] at h
  split at h
  · exact hpublic h
  · exact huser h

variable (fn : String → R → R)

/-- A filter by name or region keeps to the visible scenes. -/
lemma Matches.visible {scn : SceneDocument R} (hacc : retrieveAccepted scn)
    (hfilter : scn.name ≠ "" ∨ scn.region ≠ "") {n : Node R} (h : Matches fn scn n = true) :
    Visible scn n := by
  have hentries : retrieveEntries scn =
      (optEntry (scn.name ≠ "") ("name", "inp_name") ++
        optEntry (scn.region ≠ "") ("region", "inp_region")) ++ visibility scn := if_pos hfilter
  have hvisible := matchProps_visibility {} hacc n
  simp only [Matches, NodePat.fits, hentries, Bool.and_eq_true] at h
  rw [matchProps, List.all_append, Bool.and_eq_true] at h
  rw [matchProps, h.1.2.2] at hvisible
  exact of_decide_eq_true hvisible.symm

/-- The query of a message lets no hidden scene through, or it returns nothing. -/
def Guarded (m : SceneList R) (scn : SceneDocument R) : Prop :=
  scn.key ≠ "" ∨ scn.name ≠ "" ∨ scn.region ≠ "" ∨ m.numRecords ≤ 0 ∨ m.startRecord < 0 ∨
    ¬ DistanceSent scn

/-- The functions of the distance are zero at zero. -/
structure ZeroAtZero (fn : String → R → R) : Prop where
  radians : fn "radians" 0 = 0
  haversin : fn "haversin" 0 = 0
  sqrt : fn "sqrt" 0 = 0
  asin : fn "asin" 0 = 0

/-- The properties of a hidden scene that the conditions of a message hold of. -/
def leakProps (scn : SceneDocument R) : Props R
  | "public" => some (.bool false)
  | "user" => some (.str (scn.user ++ "'"))
  | "tags" => some (.strs scn.tags)
  | "latitude" => some (.num scn.latitude)
  | "longitude" => some (.num scn.longitude)
  | _ => none

/-- A graph of so many hidden scenes. -/
def crowd (scn : SceneDocument R) : ℕ → Graph R
  | 0 => Graph.empty
  | k + 1 => (crowd scn k).addNode "Scene" (leakProps scn)

omit [LinearOrder R] in
lemma crowd_nodes (scn : SceneDocument R) (k : ℕ) :
    (crowd scn k).nodes.length = k ∧
      ∀ n ∈ (crowd scn k).nodes, n.label = "Scene" ∧ n.props = leakProps scn := by
  induction k with
  | zero => exact ⟨rfl, by simp [crowd]⟩
  | succ k ih =>
      rw [crowd, Graph.nodes_addNode]
      refine ⟨by simp [ih.1], fun n hn => ?_⟩
      rcases List.mem_append.mp hn with h | h
      · exact ih.2 n h
      · rw [List.mem_singleton.mp h]
        exact ⟨rfl, rfl⟩

omit [LinearOrder R] in
lemma crowd_triples (scn : SceneDocument R) (k : ℕ) : (crowd scn k).triples = [] := by
  induction k with
  | zero => rfl
  | succ k ih => rw [crowd, Graph.triples_addNode, ih]

omit [LinearOrder R] in
lemma leakProps_hidden (scn : SceneDocument R) {n : Node R} (hlabel : n.label = "Scene")
    (hprops : n.props = leakProps scn) : Hidden scn n := by
  refine ⟨hlabel, by simp [hprops, leakProps], fun h => ?_⟩
  simp [hprops, leakProps] at h

lemma agreeOutside_crowd (scn : SceneDocument R) (k : ℕ) :
    AgreeOutside scn Graph.empty (crowd scn k) where
  nodes := by
    have hnone : ((crowd scn k).nodes.filter fun n => ¬ Hidden scn n) = [] :=
      List.filter_eq_nil_iff.mpr fun n hn => by
        obtain ⟨hlabel, hprops⟩ := (crowd_nodes scn k).2 n hn
        simpa using leakProps_hidden scn hlabel hprops
    rw [hnone]
    rfl
  triples := by rw [crowd_triples, Graph.triples_empty]

variable [IsStrictOrderedRing R] (env : Env R)

/-- A guarded message is answered from the scenes that are not hidden. -/
lemma response_congr {m : SceneList R} {scn : SceneDocument R} {rest : List (SceneDocument R)}
    (hm : m.scenes = scn :: rest) (hacc : retrieveAccepted scn) (hguarded : Guarded m scn)
    {g g' : Graph R} (h : AgreeOutside scn g g') :
    response fn env m g = response fn env m g' := by
  rw [response_eq fn env hm hacc, response_eq fn env hm hacc]
  congr 1
  by_cases hkey : scn.key ≠ ""
  · have hscenes : ∀ g : Graph R, (scenes g scn.key).filter (Visible scn ·) =
        g.nodes.filter fun n => decide (Visible scn n) && decide (HasKey "Scene" scn.key n) :=
      fun g => by rw [scenes, List.filter_filter]
    rw [answer_retrieve_key fn m hkey hacc, answer_retrieve_key fn m hkey hacc, hscenes, hscenes,
      h.filter_eq fun n hn => (of_decide_eq_true (Bool.and_eq_true _ _ ▸ hn).1).not_hidden]
  · rw [not_not] at hkey
    by_cases hsent : DistanceSent scn
    · rw [answer_retrieve fn m hkey hacc hsent, answer_retrieve fn m hkey hacc hsent]
      by_cases hneg : m.startRecord < 0 ∨ m.numRecords < 0
      · rw [if_pos hneg, if_pos hneg]
      · rw [if_neg hneg, if_neg hneg]
        rcases hguarded with h' | h' | h' | h' | h' | h'
        · exact absurd hkey h'
        · rw [matching, matching, h.filter_eq fun n hn =>
            (Matches.visible fn hacc (.inl h') hn).not_hidden]
        · rw [matching, matching, h.filter_eq fun n hn =>
            (Matches.visible fn hacc (.inr h') hn).not_hidden]
        · rw [Int.toNat_of_nonpos h', List.take_zero, List.take_zero]
        · exact absurd (.inl h') hneg
        · exact absurd hsent h'
    · obtain ⟨what, hwhat⟩ := answer_retrieve_refused fn m hkey hacc hsent
      rw [hwhat, hwhat]

/-- Without a name or a region the hidden scenes are matched. -/
lemma matches_leakProps (hfn : ZeroAtZero fn) {scn : SceneDocument R} (hkey : scn.key = "")
    (hname : scn.name = "") (hregion : scn.region = "") (hsent : DistanceSent scn) {n : Node R}
    (hlabel : n.label = "Scene") (hprops : n.props = leakProps scn) :
    Matches fn scn n = true := by
  obtain ⟨hlookupTags, hlookupLat, hlookupLong, hlookupDistance⟩ :=
    lookup_conditions ({} : SceneList R) hkey
  have hentries : retrieveEntries scn = [] := if_neg (by simp [hname, hregion])
  have htags : scn.numTags > 0 → Value.isTrue
      (tagsCond.eval fn (retrieveSceneQuery {} scn).params [("scn", .node n)]) = true := by
    intro h
    simp [tagsCond, Expr.eval, pathNodes, hlookupTags h, BinOp.eval, List.lookup_cons, hprops,
      leakProps, Value.isTrue]
  have hdistance : HasPosition scn → Value.isTrue
      (distanceCond.eval fn (retrieveSceneQuery {} scn).params [("scn", .node n)]) = true := by
    intro h
    have hlat : scn.latitude > -9999 := lt_trans (by norm_num) h.1
    have hlong : scn.longitude > -9999 := lt_trans (by norm_num) h.2.1
    simp [distanceCond, Expr.eval, hlookupLat, hlookupLong, hlookupDistance, hlat, hlong, hsent h,
      BinOp.eval, hprops, leakProps, Value.isTrue, Value.toNum, hfn.radians,
      hfn.haversin, hfn.sqrt, hfn.asin, h.2.2]
  have hcond : holds fn (retrieveSceneQuery {} scn).params (retrieveCond scn)
      [("scn", .node n)] = true := by
    rw [retrieveCond]
    by_cases ht : scn.numTags > 0 <;> by_cases hp : HasPosition scn
    · rw [if_pos ht, if_pos hp, holds, Option.all_some, Expr.eval, isTrue_and, htags ht,
        hdistance hp]
      rfl
    · rw [if_pos ht, if_neg hp, holds, Option.all_some, htags ht]
    · rw [if_neg ht, if_pos hp, holds, Option.all_some, hdistance hp]
    · rw [if_neg ht, if_neg hp, holds_none]
  simp [Matches, NodePat.fits, matchProps, hentries, hlabel, hcond]

/-- Another message is answered from hidden scenes where there are some. -/
lemma response_crowd (hfn : ZeroAtZero fn) {m : SceneList R} {scn : SceneDocument R}
    {rest : List (SceneDocument R)} (hm : m.scenes = scn :: rest) (hacc : retrieveAccepted scn)
    (h : ¬ Guarded m scn) :
    response fn env m Graph.empty ≠ response fn env m (crowd scn (m.startRecord.toNat + 1)) := by
  simp only [Guarded, not_or, not_not, not_lt, not_le] at h
  obtain ⟨hkey, hname, hregion, hnum, hstart, hsent⟩ := h
  have hpos : ¬ (m.startRecord < 0 ∨ m.numRecords < 0) := by omega
  set g := crowd scn (m.startRecord.toNat + 1)
  obtain ⟨hlen, hnodes⟩ := crowd_nodes scn (m.startRecord.toNat + 1)
  have hall : g.nodes.filter (Matches fn scn) = g.nodes := List.filter_eq_self.mpr fun n hn =>
    matches_leakProps fn hfn hkey hname hregion hsent (hnodes n hn).1 (hnodes n hn).2
  have hpage : ((matching fn scn g).drop m.startRecord.toNat).take m.numRecords.toNat ≠ [] := by
    rw [matching, hall, ← List.length_pos_iff, List.length_take, List.length_drop,
      List.length_insertionSort, hlen]
    omega
  obtain ⟨d, hd⟩ : ∃ d, assignSceneProperties env (leakProps scn) {} = .ok d := ⟨_, rfl⟩
  obtain ⟨n, ns, hns⟩ := List.exists_cons_of_ne_nil hpage
  have hread : (n :: ns).mapM (sceneOfNode env) = .ok ((n :: ns).map fun _ => d) := by
    rw [mapM_eq_ok_iff, List.forall₂_map_right_iff, List.forall₂_same]
    intro n' hn'
    have hmem : n' ∈ matching fn scn g := List.mem_of_mem_drop (List.mem_of_mem_take (hns ▸ hn'))
    rw [matching, hall] at hmem
    rw [sceneOfNode, (hnodes n' ((List.mem_insertionSort _).mp hmem)).2, hd]
  rw [response_eq fn env hm hacc, response_eq fn env hm hacc,
    answer_retrieve fn m hkey hacc hsent, answer_retrieve fn m hkey hacc hsent, if_neg hpos,
    if_neg hpos, hns, retrieved_rows, retrieved_rows, hread]
  simp [matching, pure, Except.pure, ProcessResult.setError, ProcessResult.setReturnString]

/-- The responses to a message in graphs that differ only in hidden scenes are the same
exactly if the message is guarded. -/
theorem retrieve_independent_iff (hfn : ZeroAtZero fn) {m : SceneList R} {scn : SceneDocument R}
    {rest : List (SceneDocument R)} (hm : m.scenes = scn :: rest) (hacc : retrieveAccepted scn) :
    (∀ g g' : Graph R, AgreeOutside scn g g' → response fn env m g = response fn env m g') ↔
      Guarded m scn := by
  constructor
  · intro h
    by_contra hguarded
    exact response_crowd fn env hfn hm hacc hguarded (h _ _ (agreeOutside_crowd scn _))
  · exact fun hguarded g g' => response_congr fn env hm hacc hguarded

end Hidden

lemma zeroAtZero_id : ZeroAtZero (fun _ x => x : String → ℚ → ℚ) := ⟨rfl, rfl, rfl, rfl⟩

/-- A query by name. -/
theorem retrieve_independent_named :
    (∀ g g' : Graph ℚ, AgreeOutside { name := "n" } g g' →
      response (fun _ x => x) plainEnv { scenes := [{ name := "n" }] } g =
        response (fun _ x => x) plainEnv { scenes := [{ name := "n" }] } g') ↔
      Guarded { scenes := [{ name := "n" }] } ({ name := "n" } : SceneDocument ℚ) :=
  retrieve_independent_iff (fun _ x => x) plainEnv zeroAtZero_id rfl (.inl rfl)

/-- A public query for all scenes shows a hidden one. -/
theorem retrieve_leaks :
    retrieveAccepted ({} : SceneDocument ℚ) ∧ ∃ g g' : Graph ℚ, AgreeOutside {} g g' ∧
      response (fun _ x => x) plainEnv { scenes := [{}] } g ≠
        response (fun _ x => x) plainEnv { scenes := [{}] } g' := by
  have hunguarded : ¬ Guarded { scenes := [{}] } ({} : SceneDocument ℚ) := by
    simp [Guarded, DistanceSent, HasPosition]
  exact ⟨.inl rfl, Graph.empty, _, agreeOutside_crowd _ 1,
    response_crowd (fun _ x => x) plainEnv zeroAtZero_id rfl (.inl rfl) hunguarded⟩

end CrazyIvan
