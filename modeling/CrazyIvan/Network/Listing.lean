import CrazyIvan.Network.Retrieval
import CrazyIvan.Network.Types

/-!
The pages of a retrieve message.

* `Lists`, `Listed`: what the pages of a message list, and what they should.
* `lists_drop`, `Lists.length_le`: what is listed from a start record on.
* `listing_iff`: when the pages of a message list its matches: at most ten scenes
  of a page are written.
-/

namespace CrazyIvan

open Cypher Resumption

section Pages

variable {R : Type} [Field R]

variable (env : Env R) [LinearOrder R] (fn : String → R → R)

/-- The scenes that the pages of a message list, from a start record on and until nothing
is found. -/
inductive Lists (respond : ℤ → Except Fail (ProcessResult R)) (unset n : ℤ) :
    ℤ → List (Json.Value R) → Prop
  | done {s : ℤ} {r : ProcessResult R} (hr : respond s = .ok r) (hnone : r.errCode = notFound) :
      Lists respond unset n s []
  | page {s : ℤ} {r : ProcessResult R} {scenes : List (Json.Value R)} (hr : respond s = .ok r)
      (hfound : r.successful = true) (hrest : Lists respond unset n (s + n) scenes) :
      Lists respond unset n s (r.scenes env.glm unset ++ scenes)

/-- The responses to the pages of a message. -/
def pageResponse (m : SceneList R) (n : ℤ) (g : Graph R) (s : ℤ) :
    Except Fail (ProcessResult R) :=
  response fn env { m with startRecord := s, numRecords := n } g

/-- No two scenes have the same key. -/
def DistinctKeys (g : Graph R) : Prop :=
  ∀ n ∈ g.nodes, ∀ n' ∈ g.nodes, n.label = "Scene" → n'.label = "Scene" →
    n.props "key" = n'.props "key" → n = n'

/-- The matches of a message, each once and by their keys, as they are written. -/
def Listed (scn : SceneDocument R) (g : Graph R) (scenes : List (Json.Value R)) : Prop :=
  ∃ (ns : List (Node R)) (docs : List (SceneDocument R)),
    ns.Perm (g.nodes.filter (Matches fn scn)) ∧
    ns.Pairwise (fun a b => NodeLe "key" a b ∧ a.props "key" ≠ b.props "key") ∧
    ns.mapM (sceneOfNode env) = .ok docs ∧ scenes = docs.map (writeScene env.glm)

/-- The matches in their order. -/
lemma matching_perm (scn : SceneDocument R) (g : Graph R) :
    (matching fn scn g).Perm (g.nodes.filter (Matches fn scn)) :=
  List.perm_insertionSort _ _

lemma matching_pairwise (scn : SceneDocument R) {g : Graph R} (hg : DistinctKeys g) :
    (matching fn scn g).Pairwise fun a b => NodeLe "key" a b ∧ a.props "key" ≠ b.props "key" := by
  have hmem : ∀ n ∈ matching fn scn g, n ∈ g.nodes ∧ n.label = "Scene" := by
    intro n hn
    obtain ⟨hn, hmatch⟩ := List.mem_filter.mp ((matching_perm fn scn g).mem_iff.mp hn)
    simp only [Matches, NodePat.fits, Option.all_some, Bool.and_eq_true, decide_eq_true_eq]
      at hmatch
    exact ⟨hn, hmatch.1.1⟩
  have hnodup : (matching fn scn g).Nodup :=
    (matching_perm fn scn g).nodup_iff.mpr (g.nodes_nodup.of_map.filter _)
  have hsorted : (matching fn scn g).Pairwise (NodeLe "key") := List.pairwise_insertionSort _ _
  refine (hsorted.and hnodup).imp_of_mem fun {a b} ha hb h => ⟨h.1, fun hkeys => h.2 ?_⟩
  exact hg a (hmem a ha).1 b (hmem b hb).1 (hmem a ha).2 (hmem b hb).2 hkeys

variable [IsStrictOrderedRing R] {m : SceneList R} {scn : SceneDocument R}
  {rest : List (SceneDocument R)} {g : Graph R}

/-- A page is answered with the matches on it. -/
lemma pageResponse_eq (hm : m.scenes = scn :: rest) (hkey : scn.key = "")
    (hacc : retrieveAccepted scn) (hsent : DistanceSent scn) {n : ℤ} (hn : 0 ≤ n) (s : ℕ) :
    pageResponse env fn m n g s =
      retrieved env m (.rows ((((matching fn scn g).drop s).take n.toNat).map
        fun n => [.node n])) := by
  have hpos : ¬ ((s : ℤ) < 0 ∨ n < 0) := by omega
  have hm' : ({ m with startRecord := s, numRecords := n } : SceneList R).scenes = scn :: rest := hm
  rw [pageResponse, response_eq fn env hm' hacc, answer_retrieve fn _ hkey hacc hsent, if_neg hpos]
  rfl

/-- A page on which the matches can be read. -/
lemma pageResponse_ok (hm : m.scenes = scn :: rest) (hkey : scn.key = "")
    (hacc : retrieveAccepted scn) (hsent : DistanceSent scn) {n : ℤ} (hn : 0 ≤ n)
    {docs : List (SceneDocument R)} (hdocs : (matching fn scn g).mapM (sceneOfNode env) = .ok docs)
    (s : ℕ) :
    pageResponse env fn m n g s = .ok (if (docs.drop s).take n.toNat = [] then
      ({} : ProcessResult R).setError notFound "Document not found"
      else foundResult m.transactionId ((docs.drop s).take n.toNat)) := by
  have hpage : (((matching fn scn g).drop s).take n.toNat).mapM (sceneOfNode env) =
      .ok ((docs.drop s).take n.toNat) := by
    rw [mapM_eq_ok_iff] at hdocs ⊢
    exact List.forall₂_take _ (List.forall₂_drop _ hdocs)
  rw [pageResponse_eq env fn hm hkey hacc hsent hn, retrieved_rows, hpage]
  cases (docs.drop s).take n.toNat <;> rfl

/-- From every start record the pages list what is left, where no page has more than ten
matches. -/
lemma lists_drop (hm : m.scenes = scn :: rest) (hkey : scn.key = "")
    (hacc : retrieveAccepted scn) (hsent : DistanceSent scn) {n : ℤ} (hn : 1 ≤ n)
    {docs : List (SceneDocument R)} (hdocs : (matching fn scn g).mapM (sceneOfNode env) = .ok docs)
    (hten : n ≤ 10 ∨ docs.length ≤ 10) (unset : ℤ) (s : ℕ) :
    Lists env (pageResponse env fn m n g) unset n s ((docs.drop s).map (writeScene env.glm)) := by
  have hn' : 0 ≤ n := by omega
  induction hk : docs.length - s using Nat.strong_induction_on generalizing s with
  | _ k ih =>
      have hresponse := pageResponse_ok env fn hm hkey hacc hsent hn' hdocs s
      by_cases hs : docs.length ≤ s
      · have hnone : docs.drop s = [] := List.drop_eq_nil_of_le hs
        rw [hnone] at hresponse ⊢
        rw [List.take_nil, if_pos rfl] at hresponse
        exact .done hresponse rfl
      · have hlen : ((docs.drop s).take n.toNat).length = min n.toNat (docs.length - s) := by
          rw [List.length_take, List.length_drop]
        have hne : (docs.drop s).take n.toNat ≠ [] := by
          rw [← List.length_pos_iff, hlen]
          omega
        rw [if_neg hne] at hresponse
        have hrest := ih _ (by omega) (s + n.toNat) rfl
        rw [show ((s + n.toNat : ℕ) : ℤ) = s + n by omega] at hrest
        have hsplit : (docs.drop s).map (writeScene env.glm) =
            (foundResult m.transactionId ((docs.drop s).take n.toNat)).scenes env.glm unset ++
              (docs.drop (s + n.toNat)).map (writeScene env.glm) := by
          rw [scenes_foundResult, List.take_of_length_le (by omega), ← List.map_append,
            ← List.drop_drop, List.take_append_drop]
        rw [hsplit]
        exact .page hresponse rfl hrest

/-- The pages list no more than what is left. -/
lemma Lists.length_le (hm : m.scenes = scn :: rest) (hkey : scn.key = "")
    (hacc : retrieveAccepted scn) (hsent : DistanceSent scn) {n : ℤ} (hn : 1 ≤ n)
    {docs : List (SceneDocument R)} (hdocs : (matching fn scn g).mapM (sceneOfNode env) = .ok docs)
    {unset : ℤ} {s : ℤ} {scenes : List (Json.Value R)}
    (h : Lists env (pageResponse env fn m n g) unset n s scenes) (hs : 0 ≤ s) :
    scenes.length ≤ docs.length - s.toNat := by
  induction h with
  | done => exact Nat.zero_le _
  | @page s r scenes hr hfound hrest ih =>
      obtain ⟨s, rfl⟩ := Int.eq_ofNat_of_zero_le hs
      have hresponse := pageResponse_ok env fn hm hkey hacc hsent (by omega : 0 ≤ n) hdocs s
      rw [hr, Except.ok.injEq] at hresponse
      have hrest := ih (by omega)
      have hr' : (r.scenes env.glm unset).length ≤ min n.toNat (docs.length - s) := by
        rw [hresponse]
        split
        · exact Nat.zero_le _
        · rw [scenes_foundResult, List.length_map, List.length_take, List.length_take,
            List.length_drop]
          omega
      rw [List.length_append]
      omega

omit [IsStrictOrderedRing R] in
/-- Matches of the stored types can be read. -/
lemma read_matching
    (hread : ∀ x ∈ g.nodes, Matches fn scn x = true → StoredTypes x.props) :
    ∃ docs, (matching fn scn g).mapM (sceneOfNode env) = .ok docs ∧
      docs.length = (g.nodes.filter (Matches fn scn)).length := by
  have hreadable : ∀ x ∈ matching fn scn g, ∃ d, sceneOfNode env x = .ok d := fun x hx => by
    obtain ⟨hx, hmatch⟩ := List.mem_filter.mp ((matching_perm fn scn g).mem_iff.mp hx)
    exact (assignSceneProperties_ok_iff env _).mpr (hread x hx hmatch)
  have : Nonempty (SceneDocument R) := ⟨{}⟩
  choose! d hd using hreadable
  refine ⟨(matching fn scn g).map d, ?_, ?_⟩
  · rw [mapM_eq_ok_iff, List.forall₂_map_right_iff, List.forall₂_same]
    exact hd
  · rw [List.length_map, (matching_perm fn scn g).length_eq]

/-- The pages list every match where no page has more than ten. -/
lemma listed_of_le_ten (hm : m.scenes = scn :: rest) (hkey : scn.key = "")
    (hacc : retrieveAccepted scn) {n : ℤ} (hn : 1 ≤ n) (hg : DistinctKeys g) (unset : ℤ)
    (hsent : DistanceSent scn)
    (hread : ∀ x ∈ g.nodes, Matches fn scn x = true → StoredTypes x.props)
    (hten : n ≤ 10 ∨ (g.nodes.filter (Matches fn scn)).length ≤ 10) :
    ∃ scenes, Lists env (pageResponse env fn m n g) unset n 0 scenes ∧
      Listed env fn scn g scenes := by
  obtain ⟨docs, hdocs, hlen⟩ := read_matching env fn hread
  refine ⟨_, lists_drop env fn hm hkey hacc hsent hn hdocs (hlen ▸ hten) unset 0,
    matching fn scn g, docs, matching_perm fn scn g, matching_pairwise fn scn hg, hdocs, ?_⟩
  rw [List.drop_zero]

/-- Where the distance is not sent no page is answered. -/
lemma not_lists_of_not_sent (hm : m.scenes = scn :: rest) (hkey : scn.key = "")
    (hacc : retrieveAccepted scn) (hsent : ¬ DistanceSent scn) {n unset s : ℤ}
    {scenes : List (Json.Value R)} :
    ¬ Lists env (pageResponse env fn m n g) unset n s scenes := by
  intro h
  obtain ⟨what, hwhat⟩ := answer_retrieve_refused fn
    { m with startRecord := s, numRecords := n } hkey hacc hsent
  have hm' : ({ m with startRecord := s, numRecords := n } : SceneList R).scenes = scn :: rest := hm
  have hresponse : pageResponse env fn m n g s =
      .ok (({} : ProcessResult R).setError processingError what) := by
    rw [pageResponse, response_eq fn env hm' hacc, hwhat]
    rfl
  cases h with
  | done hr hnone =>
      rw [hresponse, Except.ok.injEq] at hr
      rw [← hr] at hnone
      exact absurd hnone (show ¬ processingError = notFound by decide)
  | page hr hfound _ =>
      rw [hresponse, Except.ok.injEq] at hr
      rw [← hr] at hfound
      exact Bool.false_ne_true hfound

/-- Where a page has more than ten matches not all are listed. -/
lemma Lists.length_lt (hm : m.scenes = scn :: rest) (hkey : scn.key = "")
    (hacc : retrieveAccepted scn) (hsent : DistanceSent scn) {n : ℤ}
    {docs : List (SceneDocument R)} (hdocs : (matching fn scn g).mapM (sceneOfNode env) = .ok docs)
    (hn : 10 < n) (hlen : 10 < docs.length) {unset : ℤ} {scenes : List (Json.Value R)}
    (h : Lists env (pageResponse env fn m n g) unset n 0 scenes) :
    scenes.length < docs.length := by
  cases h with
  | done => exact (Nat.zero_lt_succ _).trans hlen
  | @page _ r scenes hr hfound hrest =>
      have hresponse := pageResponse_ok env fn hm hkey hacc hsent (by omega : 0 ≤ n) hdocs 0
      rw [Nat.cast_zero, hr, Except.ok.injEq] at hresponse
      have hle := hrest.length_le env fn hm hkey hacc hsent (by omega) hdocs (by omega)
      have hten : (r.scenes env.glm unset).length ≤ 10 := by
        rw [hresponse]
        split
        · exact Nat.zero_le _
        · rw [scenes_foundResult, List.length_map, List.length_take]
          exact min_le_left _ _
      rw [List.length_append]
      omega

lemma not_listed (hm : m.scenes = scn :: rest) (hkey : scn.key = "")
    (hacc : retrieveAccepted scn) (hsent : DistanceSent scn)
    (hread : ∀ x ∈ g.nodes, Matches fn scn x = true → StoredTypes x.props) {n unset : ℤ}
    (hn : 10 < n) (hten : 10 < (g.nodes.filter (Matches fn scn)).length) :
    ¬ ∃ scenes, Lists env (pageResponse env fn m n g) unset n 0 scenes ∧
      Listed env fn scn g scenes := by
  rintro ⟨scenes, hlists, ns, listed, hperm, -, hlisted, rfl⟩
  obtain ⟨docs, hdocs, hlen⟩ := read_matching env fn hread
  have hlt := hlists.length_lt env fn hm hkey hacc hsent hdocs hn (hlen ▸ hten)
  rw [List.length_map, ← (mapM_eq_ok_iff.mp hlisted).length_eq, hperm.length_eq, hlen] at hlt
  exact lt_irrefl _ hlt

/-- The pages of a message list its matches exactly if its distance is sent, its matches can
be read, and no page has more than ten of them. -/
theorem listing_iff (hm : m.scenes = scn :: rest) (hkey : scn.key = "")
    (hacc : retrieveAccepted scn) {n : ℤ} (hn : 1 ≤ n) (hg : DistinctKeys g) (unset : ℤ) :
    (∃ scenes, Lists env (pageResponse env fn m n g) unset n 0 scenes ∧
      Listed env fn scn g scenes) ↔
      DistanceSent scn ∧ (∀ x ∈ g.nodes, Matches fn scn x = true → StoredTypes x.props) ∧
        (n ≤ 10 ∨ (g.nodes.filter (Matches fn scn)).length ≤ 10) := by
  constructor
  · intro h
    have hlisted := h
    obtain ⟨scenes, hlists, ns, docs, hperm, -, hdocs, -⟩ := h
    have hsent : DistanceSent scn := by
      by_contra hsent
      exact not_lists_of_not_sent env fn hm hkey hacc hsent hlists
    have hread : ∀ x ∈ g.nodes, Matches fn scn x = true → StoredTypes x.props := by
      intro x hx hmatch
      have hmem : x ∈ ns := hperm.mem_iff.mpr (List.mem_filter.mpr ⟨hx, hmatch⟩)
      exact (assignSceneProperties_ok_iff env _).mp (exists_of_mapM hdocs hmem)
    refine ⟨hsent, hread, ?_⟩
    by_contra hten
    push Not at hten
    exact not_listed env fn hm hkey hacc hsent hread hten.1 hten.2 hlisted
  · rintro ⟨hsent, hread, hten⟩
    exact listed_of_le_ten env fn hm hkey hacc hn hg unset hsent hread hten

end Pages

/-- The properties of the public scenes of a row, which lie in two regions. -/
def rowProps (i : ℕ) (p : String) : Option (Value ℚ) :=
  if p = "key" then some (.str (String.ofList (List.replicate i 'a')))
  else if p = "public" then some (.bool true)
  else if p = "region" then some (.str (if i % 2 = 0 then "east" else "west")) else none

/-- Public scenes with the keys "", "a", "aa", ... -/
def row : ℕ → Graph ℚ
  | 0 => Graph.empty
  | k + 1 => (row k).addNode "Scene" (rowProps k)

lemma row_nodes (k : ℕ) : (row k).nodes.length = k ∧
    ∀ n ∈ (row k).nodes, n.label = "Scene" ∧ ∃ i < k, n.props = rowProps i := by
  induction k with
  | zero => exact ⟨rfl, by simp [row]⟩
  | succ k ih =>
      rw [row, Graph.nodes_addNode]
      refine ⟨by simp [ih.1], fun n hn => ?_⟩
      rcases List.mem_append.mp hn with h | h
      · obtain ⟨hlabel, i, hi, hprops⟩ := ih.2 n h
        exact ⟨hlabel, i, by omega, hprops⟩
      · rw [List.mem_singleton.mp h]
        exact ⟨rfl, k, by omega, rfl⟩

lemma rowProps_key_inj {i j : ℕ} (h : rowProps i "key" = rowProps j "key") : i = j := by
  have hkeys : String.ofList (List.replicate i 'a') = String.ofList (List.replicate j 'a') := by
    simpa [rowProps] using h
  simpa using congrArg String.length hkeys

lemma distinctKeys_row (k : ℕ) : DistinctKeys (row k) := by
  induction k with
  | zero => exact fun n hn => absurd hn (by simp [row])
  | succ k ih =>
      have hold : ∀ n ∈ (row k).nodes, n.props "key" ≠ rowProps k "key" := by
        intro n hn hkey
        obtain ⟨-, i, hi, hprops⟩ := (row_nodes k).2 n hn
        rw [hprops] at hkey
        exact absurd (rowProps_key_inj hkey) hi.ne
      intro n hn n' hn' hlabel hlabel' hkeys
      rw [row, Graph.nodes_addNode, List.mem_append, List.mem_singleton] at hn hn'
      rcases hn with hn | rfl <;> rcases hn' with hn' | rfl
      · exact ih n hn n' hn' hlabel hlabel' hkeys
      · exact absurd hkeys (hold n hn)
      · exact absurd hkeys.symm (hold n' hn')
      · rfl

lemma storedTypes_row {k : ℕ} {x : Node ℚ} (hx : x ∈ (row k).nodes) : StoredTypes x.props := by
  obtain ⟨-, i, -, hprops⟩ := (row_nodes k).2 x hx
  rw [hprops]
  constructor <;> simp [rowProps]

/-- A query for the public scenes of one region. -/
def eastScenes : SceneList ℚ := { scenes := [{ region := "east" }] }

/-- Of five scenes those in the region, two on a page. -/
theorem listing_row :
    ∃ scenes, Lists plainEnv (pageResponse plainEnv (fun _ x => x) eastScenes 2 (row 5)) 0 2 0
      scenes ∧ Listed plainEnv (fun _ x => x) { region := "east" } (row 5) scenes :=
  (listing_iff plainEnv (fun _ x => x) rfl rfl (.inl rfl) (by decide) (distinctKeys_row 5) 0).mpr
    ⟨by simp [DistanceSent, HasPosition], fun _ hx _ => storedTypes_row hx, .inl (by decide)⟩

example : ((row 5).nodes.filter (Matches (fun _ x => x) { region := "east" })).length = 3 := by
  decide +kernel

/-- A query for all public scenes. -/
def allScenes : SceneList ℚ := { scenes := [{}] }

/-- Of eleven scenes on one page the last is not written. -/
theorem eleven_not_listed :
    DistinctKeys (row 11) ∧
    ¬ ∃ scenes, Lists plainEnv (pageResponse plainEnv (fun _ x => x) allScenes 11 (row 11)) 0 11 0
        scenes ∧ Listed plainEnv (fun _ x => x) {} (row 11) scenes := by
  have hmatches : ∀ n : Node ℚ, n.label = "Scene" → Matches (fun _ x => x) {} n = true := by
    intro n hn
    have hentries : retrieveEntries ({} : SceneDocument ℚ) = [] := if_neg (by simp)
    have hcond : retrieveCond ({} : SceneDocument ℚ) = none := by
      simp [retrieveCond, SceneDocument.numTags, HasPosition]
    simp [Matches, NodePat.fits, matchProps, hentries, hcond, hn]
  have hall : (row 11).nodes.filter (Matches (fun _ x => x) {}) = (row 11).nodes :=
    List.filter_eq_self.mpr fun n hn => hmatches n ((row_nodes 11).2 n hn).1
  refine ⟨distinctKeys_row 11, not_listed plainEnv (fun _ x => x) rfl rfl (.inl rfl) ?_
    (fun _ hx _ => storedTypes_row hx) (by decide) ?_⟩
  · simp [DistanceSent, HasPosition]
  · rw [hall, (row_nodes 11).1]
    decide

end CrazyIvan
