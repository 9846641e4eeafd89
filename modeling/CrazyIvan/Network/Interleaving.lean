import CrazyIvan.Network.Uniqueness

/-!
Registrations at the same time: finitely many of them over one graph, one query
of one of them after the other.

* `SingleKeys`: at most one scene for a key, at most one registration of a device
  to a scene.
* `Clear`: a query that creates a scene meets none with its key, one that creates
  a registration meets none of it. `singleKeys_iff`: exactly such a query keeps
  `SingleKeys`.
* `interleave_singleKeys_iff`: exactly the schedules of such queries do.
* `exists_queriesOk_oneAtATime`: registrations that are processed one at a time are
  among these schedules, where the generated scene keys are free.
-/

namespace CrazyIvan

open Cypher Resumption

section Interleaving

variable {R : Type} [LinearOrder R]

/-- No two scenes share a key, and no device is registered to a scene twice. -/
structure SingleKeys (g : Graph R) : Prop where
  scenes : ∀ k, (scenes g k).length ≤ 1
  registrations : ∀ sk dk, (registrationsTo g sk dk).length ≤ 1

lemma SingleKeys.empty : SingleKeys (Graph.empty : Graph R) where
  scenes _ := Nat.zero_le _
  registrations _ _ := Nat.zero_le _

/-! ### Creating a scene, creating a registration -/

variable {g g' : Graph R}

lemma registrationsTo_addNode (g : Graph R) (label : String) (ps : Props R) (sk dk : String) :
    registrationsTo (g.addNode label ps) sk dk = registrationsTo g sk dk := by
  rw [registrationsTo, Graph.triples_addNode, registrationsTo]

/-- A scene under a key that is free, and only under such a one. -/
lemma singleKeys_addScene {ps : Props R} {newId : String}
    (hkey : ps "key" = some (.str newId)) :
    SingleKeys (g.addNode "Scene" ps) ↔ SingleKeys g ∧ scenes g newId = [] := by
  have hscenes : ∀ k, (scenes (g.addNode "Scene" ps) k).length
      = (scenes g k).length + if newId = k then 1 else 0 := by
    intro k
    rw [scenes_addNode, hkey]
    by_cases hk : newId = k <;> simp [hk]
  constructor
  · intro h
    have hlen := h.scenes newId
    rw [hscenes, if_pos rfl] at hlen
    refine ⟨⟨fun k => ?_, fun sk dk => ?_⟩, List.eq_nil_of_length_eq_zero (by omega)⟩
    · have := h.scenes k
      rw [hscenes] at this
      omega
    · rw [← registrationsTo_addNode g "Scene" ps]
      exact h.registrations sk dk
  · rintro ⟨h, hnew⟩
    refine ⟨fun k => ?_, fun sk dk => ?_⟩
    · rw [hscenes]
      by_cases hk : newId = k
      · rw [if_pos hk, ← hk, hnew]
        simp
      · rw [if_neg hk]
        exact h.scenes k
    · rw [registrationsTo_addNode]
      exact h.registrations sk dk

section Attached

variable {sk dk conn host : String} {port : ℤ} {rprops : Props R}
  {ts : List (Node R × Rel R × Node R)}

/-- The new relationships register this device to this scene only. -/
lemma registrationsTo_attached_of_ne (hts : Attached "UserDevice" "TRANSFORM"
    (deviceProps dk conn host port) rprops (scenes g sk) g g' ts) {sk' dk' : String}
    (hne : ¬ (sk' = sk ∧ dk' = dk)) : registrationsTo g' sk' dk' = registrationsTo g sk' dk' := by
  rw [registrationsTo, hts.triples, List.filter_append, registrationsTo]
  refine List.append_right_eq_self.mpr (List.filter_eq_nil_iff.mpr fun t ht => ?_)
  obtain ⟨hsrc, -, hdst⟩ := mem_attached hts ht
  rw [decide_eq_true_eq]
  rintro ⟨hs, -, hd⟩
  have hsk := hs.2.symm.trans (mem_scenes.mp hsrc).2.2
  have hdk := hd.2.symm.trans hdst.2
  exact hne ⟨Value.str.inj (Option.some.inj hsk), Value.str.inj (Option.some.inj hdk)⟩

lemma length_attached (hts : Attached "UserDevice" "TRANSFORM" (deviceProps dk conn host port)
    rprops (scenes g sk) g g' ts) : ts.length = (scenes g sk).length := by
  rw [← hts.src, List.length_map]

/-- A registration of a device that is not registered, and only of such a one,
unless there is no scene to register it to. -/
lemma singleKeys_attached (hts : Attached "UserDevice" "TRANSFORM"
    (deviceProps dk conn host port) rprops (scenes g sk) g g' ts) :
    SingleKeys g' ↔ SingleKeys g ∧ (scenes g sk = [] ∨ registrationsTo g sk dk = []) := by
  have hlen : (registrationsTo g' sk dk).length
      = (registrationsTo g sk dk).length + (scenes g sk).length := by
    rw [registrationsTo_attached hts, List.length_append, length_attached hts]
  constructor
  · intro h
    have hscenes : ∀ k, (scenes g k).length ≤ 1 := fun k => scenes_attached hts k ▸ h.scenes k
    have hone := h.registrations sk dk
    rw [hlen] at hone
    refine ⟨⟨hscenes, fun sk' dk' => ?_⟩, ?_⟩
    · by_cases heq : sk' = sk ∧ dk' = dk
      · rw [heq.1, heq.2]
        omega
      · rw [← registrationsTo_attached_of_ne hts heq]
        exact h.registrations sk' dk'
    · rcases Nat.eq_zero_or_pos (scenes g sk).length with hzero | hpos
      · exact Or.inl (List.eq_nil_of_length_eq_zero hzero)
      · exact Or.inr (List.eq_nil_of_length_eq_zero (by omega))
  · rintro ⟨h, hclear⟩
    refine ⟨fun k => (scenes_attached hts k).symm ▸ h.scenes k, fun sk' dk' => ?_⟩
    by_cases heq : sk' = sk ∧ dk' = dk
    · have hscene := h.scenes sk
      have hreg := h.registrations sk dk
      rw [heq.1, heq.2, hlen]
      rcases hclear with hnil | hnil
      · rw [hnil]
        simpa using hreg
      · rw [hnil]
        simpa using hscene
    · rw [registrationsTo_attached_of_ne hts heq]
      exact h.registrations sk' dk'

end Attached

/-! ### The queries -/

variable [Field R] (fn : String → R → R) (env : Env R)

/-- A query that creates a scene meets no scene with the key, and one that creates
a registration meets no scene to register to or no registration. -/
structure Clear (q : Query R) (g : Graph R) : Prop where
  create : ∀ newId scn, q = createSceneQuery newId scn → newId ≠ "" → Storable scn →
    scenes g newId = []
  register : ∀ dk sk t conn host port,
    q = registerDeviceQuery env dk sk t false conn host port →
      scenes g sk = [] ∨ registrationsTo g sk dk = []

lemma key_of_createSceneQuery_eq {k k' : String} {scn scn' : SceneDocument R} (hk : k ≠ "")
    (hk' : k' ≠ "") (h : createSceneQuery k scn = createSceneQuery k' scn') : k = k' := by
  have hlookup : ∀ {k : String} (scn : SceneDocument R), k ≠ "" →
      (createSceneQuery k scn).params.lookup "inp_key" = some (.str k) := fun scn hk => by
    simp [createSceneQuery, generateSceneQueryParameters, generateQueryParameters, optParam, hk]
  have heq := (hlookup scn hk).symm.trans ((congrArg (fun q => q.params.lookup "inp_key") h).trans
    (hlookup scn' hk'))
  exact Value.str.inj (Option.some.inj heq)

/-- A query that leaves the nodes as they are creates no scene. -/
lemma not_create_of_nodes {q : Query R} (hnodes : (db fn q g).2.nodes = g.nodes) {newId : String}
    {scn : SceneDocument R} (hq : q = createSceneQuery newId scn) (hnew : newId ≠ "") :
    ¬ Storable scn := by
  intro hscn
  rw [hq, answer_create fn hnew hscn] at hnodes
  have := congrArg List.length hnodes
  simp at this

/-- A query that leaves the relationships as they are registers to no scene. -/
lemma scenes_eq_nil_of_triples {q : Query R} (htriples : (db fn q g).2.triples = g.triples)
    {dk sk conn host : String} {t : Transform R} {port : ℤ}
    (hq : q = registerDeviceQuery env dk sk t false conn host port) : scenes g sk = [] := by
  obtain ⟨ts, hts, -⟩ := answer_register fn env dk sk t conn host port g
  rw [hq, hts.triples] at htriples
  rw [← hts.src, List.append_right_eq_self.mp htriples, List.map_nil]

lemma clear_of_eq {q : Query R} (h : (db fn q g).2 = g) : Clear env q g where
  create _ _ hq hnew hscn := absurd hscn (not_create_of_nodes fn (by rw [h]) hq hnew)
  register _ _ _ _ _ _ hq := Or.inl (scenes_eq_nil_of_triples fn env (by rw [h]) hq)

lemma clear_create {newId : String} (hnew : newId ≠ "") {scn : SceneDocument R}
    (hscn : Storable scn) :
    Clear env (createSceneQuery newId scn) g ↔ scenes g newId = [] := by
  refine ⟨fun h => h.create newId scn rfl hnew hscn, fun h => ⟨fun newId' scn' hq hnew' _ => ?_,
    fun dk sk t conn host port hq => Or.inl ?_⟩⟩
  · rw [← key_of_createSceneQuery_eq hnew hnew' hq]
    exact h
  · refine scenes_eq_nil_of_triples (fun _ x => x) env ?_ hq
    rw [answer_create _ hnew hscn, Graph.triples_addNode]

lemma clear_register {dk sk conn host : String} {t : Transform R} {port : ℤ} :
    Clear env (registerDeviceQuery env dk sk t false conn host port) g ↔
      scenes g sk = [] ∨ registrationsTo g sk dk = [] := by
  refine ⟨fun h => h.register _ _ _ _ _ _ rfl, fun h => ⟨fun newId scn hq hnew hscn => ?_,
    fun dk' sk' t' conn' host' port' hq => ?_⟩⟩
  · -- Such a query would add a node and no relationship.
    obtain ⟨ts, hts, -⟩ := answer_register (fun _ x => x) env dk sk t conn host port g
    rw [hq, answer_create _ hnew hscn] at hts
    have hnone : ts = [] := by
      have := hts.triples
      rwa [Graph.triples_addNode, eq_comm, List.append_right_eq_self] at this
    have hnodes := congrArg List.length hts.nodes
    simp [hnone] at hnodes
  · have hparams := congrArg Query.params hq
    have hsk : Value.str sk = Value.str sk' := congrArg Prod.snd (List.cons.inj hparams).1
    have hdk : Value.str dk = Value.str dk' :=
      congrArg Prod.snd (List.cons.inj (List.cons.inj hparams).2).1
    rw [← Value.str.inj hsk, ← Value.str.inj hdk]
    exact h

/-- One query of a registration keeps the keys single exactly when it is clear. -/
theorem singleKeys_iff {q : Query R} (hq : SentByRegistration env q) (g : Graph R) :
    SingleKeys (db fn q g).2 ↔ SingleKeys g ∧ Clear env q g := by
  have hread : (db fn q g).2 = g → (SingleKeys (db fn q g).2 ↔ SingleKeys g ∧ Clear env q g) :=
    fun h => by rw [h, iff_self_and]; exact fun _ => clear_of_eq fn env h
  cases hq with
  | sceneExists k => exact hread (by rw [answer_sceneExists])
  | isUdRegistered k => exact hread (by rw [answer_isUdRegistered])
  | getRegistrations dk => exact hread (by rw [answer_getRegistrations])
  | create hnew scn =>
      by_cases hscn : Storable scn
      · rw [answer_create fn hnew hscn, clear_create env hnew hscn]
        exact singleKeys_addScene (sceneProps_key hnew scn)
      · obtain ⟨what, hwhat⟩ := answer_create_refused fn hnew hscn g
        exact hread (by rw [hwhat])
  | register dk sk t conn host port =>
      obtain ⟨ts, hts, -⟩ := answer_register fn env dk sk t conn host port g
      rw [clear_register]
      exact singleKeys_attached hts

/-! ### Registrations at the same time -/

/-- Some registration requests over a graph. -/
def registering (g : Graph R) (reqs : List (Config × Uuids × SceneList R)) :
    Pool (Graph R) (Query R) (Answer R) Fail (ProcessResult R) :=
  ⟨g, reqs.map fun r => processRegistrationMessage env r.1 r.2.1 r.2.2⟩

variable {env} in
lemma asks_registering (g : Graph R) (reqs : List (Config × Uuids × SceneList R)) :
    ∀ p ∈ (registering env g reqs).threads, p.Asks (SentByRegistration env) := by
  intro p hp
  obtain ⟨r, -, rfl⟩ := List.mem_map.mp hp
  exact asks_registration r.1 r.2.1 r.2.2

/-- However the queries of some registrations follow each other, the keys are
single at the end exactly when they are at the start and each of these queries is
clear in the graph it meets. -/
theorem interleave_singleKeys_iff (reqs : List (Config × Uuids × SceneList R)) (sched : List ℕ)
    (g : Graph R) :
    SingleKeys ((registering env g reqs).interleave (db fn) sched).store ↔
      SingleKeys g ∧ (registering env g reqs).QueriesOk (db fn) (Clear env) sched :=
  Pool.interleave_iff (fun _ g hq => singleKeys_iff fn env hq g) sched (asks_registering g reqs)

/-- Two requests to register the device to the scene, over the empty graph. -/
def twice : Pool (Graph ℚ) (Query ℚ) (Answer ℚ) Fail (ProcessResult ℚ) :=
  registering plainEnv Graph.empty
    [(plainCfg, ⟨"", ""⟩, someMsg), (plainCfg, ⟨"", ""⟩, someMsg)]

/-- Two requests that take turns both find no scene, and both create it. -/
theorem scene_created_twice :
    ¬ ∀ (g : Graph ℚ) (reqs : List (Config × Uuids × SceneList ℚ)) (sched : List ℕ),
      SingleKeys g →
      (∀ p ∈ ((registering plainEnv g reqs).interleave (db fun _ x => x) sched).threads,
        p.next?.isNone = true) →
      SingleKeys ((registering plainEnv g reqs).interleave (db fun _ x => x) sched).store := by
  intro h
  have hended : ∀ p ∈ (twice.interleave (db fun _ x => x) [0, 1, 0, 1, 0, 1, 0, 1]).threads,
      p.next?.isNone = true := by decide
  have htwo : (scenes (twice.interleave (db fun _ x => x) [0, 1, 0, 1]).store "s").length = 2 := by
    decide
  -- What is broken after the fourth query stays broken.
  have hone : SingleKeys (twice.interleave (db fun _ x => x) [0, 1, 0, 1]).store :=
    Pool.invariant_of_append (fun _ g hq => singleKeys_iff (fun _ x => x) plainEnv hq g)
      (asks_registering _ _) [0, 1, 0, 1] [0, 1, 0, 1]
      (h Graph.empty _ _ SingleKeys.empty hended)
  have hlen := hone.scenes "s"
  rw [htwo] at hlen
  exact absurd hlen (by decide)

/-! ### One registration at a time -/

/-- The key that is generated for the scene of a registration, if there is one, is free. -/
def FreshScene (g : Graph R) (r : Config × Uuids × SceneList R) : Prop :=
  ∀ scn ∈ r.2.2.scenes.head?, scn.key = "" → scenes g r.2.1.scene = []

/-- A scene with no key gets the generated one. -/
lemma scenes_newSceneKey {uuid : String} {scn : SceneDocument R}
    (hfresh : scn.key = "" → scenes g uuid = []) (hnone : scenes g scn.key = []) :
    scenes g (newSceneKey uuid scn) = [] := by
  rw [newSceneKey]
  split
  · next hkey => exact hfresh hkey
  · exact hnone

lemma registrationsTo_created (uuid : String) (scn : SceneDocument R) (g : Graph R)
    (sk dk : String) :
    registrationsTo (created uuid scn g) sk dk = registrationsTo g sk dk := by
  rw [created]
  split
  · exact registrationsTo_addNode _ _ _ _ _
  · rfl

lemma singleKeys_created (hg : SingleKeys g) {uuid : String} {scn : SceneDocument R}
    (hnew : newSceneKey uuid scn ≠ "" → Storable scn → scenes g (newSceneKey uuid scn) = []) :
    SingleKeys (created uuid scn g) := by
  rw [created]
  split
  · next h => exact (singleKeys_addScene (sceneProps_key h.1 scn)).mpr ⟨hg, hnew h.1 h.2⟩
  · exact hg

/-- A registration alone keeps the keys single. -/
lemma singleKeys_register (hg : SingleKeys g) {r : Config × Uuids × SceneList R}
    (hfresh : FreshScene g r) :
    SingleKeys (serve fn env g (.register r.1 r.2.1 r.2.2)) := by
  obtain ⟨cfg, uuids, m⟩ := r
  have hlink : ∀ {g' : Graph R} {scn : SceneDocument R} {dev : UserDevice R}, SingleKeys g' →
      registrationsTo g' scn.key (newDeviceKey uuids dev) = [] →
      SingleKeys (db fn (linkQuery env uuids scn dev) g').2 := fun hg' hreg =>
    (singleKeys_iff fn env (.register _ _ _ _ _ _) _).mpr
      ⟨hg', (clear_register env).mpr (.inr hreg)⟩
  by_cases hfields : ∀ scn ∈ m.scenes.head?, scn.devices = []
  · obtain ⟨errMsg, heq⟩ := processRegistrationMessage_refused env cfg uuids hfields
    rw [serve, Request.program, heq]
    exact hg
  · obtain ⟨scn, rest, dev, devs, hscn, hdev⟩ := exists_head_device hfields
    have hfree : scenes g scn.key = [] → scenes g (newSceneKey uuids.scene scn) = [] :=
      scenes_newSceneKey (hfresh scn (by rw [hscn]; rfl))
    rcases serve_register fn env hscn hdev cfg uuids g with
      h | ⟨-, hnone, h | ⟨-, -, h⟩⟩ | ⟨-, -, hreg, h⟩
    · rw [h]
      exact hg
    · rw [h]
      exact singleKeys_created hg fun _ _ => hfree hnone
    · rw [h]
      refine hlink (singleKeys_created hg fun _ _ => hfree hnone) ?_
      rw [registrationsTo_created]
      exact registrationsTo_of_scenes hnone _
    · rw [h]
      exact hlink hg hreg

/-- Registrations that are processed one at a time, where the generated keys are free, ask only
queries that are clear. -/
theorem exists_queriesOk_oneAtATime {reqs : List (Config × Uuids × SceneList R)} {g : Graph R}
    (hg : SingleKeys g)
    (hfresh : Along (fun g r => serve fn env g (.register r.1 r.2.1 r.2.2)) FreshScene g reqs) :
    ∃ sched : List ℕ, sched.Pairwise (· ≤ ·) ∧
      (∀ p ∈ ((registering env g reqs).interleave (db fn) sched).threads, ∃ r, p = .ret r) ∧
      (registering env g reqs).QueriesOk (db fn) (Clear env) sched := by
  obtain ⟨sched, hsorted, hstore, hended⟩ := Pool.exists_interleave_runAll (db fn) g
    (reqs.map fun r => processRegistrationMessage env r.1 r.2.1 r.2.2)
  have hrun : Pool.runAll (db fn) g
      (reqs.map fun r => processRegistrationMessage env r.1 r.2.1 r.2.2)
      = reqs.foldl (fun g r => serve fn env g (.register r.1 r.2.1 r.2.2)) g :=
    List.foldl_map
  have hlast : SingleKeys (reqs.foldl (fun g r => serve fn env g (.register r.1 r.2.1 r.2.2)) g) :=
    forall_states_of_along (I := SingleKeys) (fun _ _ hg hok => singleKeys_register fn env hg hok)
      hg hfresh _ (List.mem_of_getLast? List.getLast?_scanl)
  refine ⟨sched, hsorted, hended, ?_⟩
  refine ((Pool.interleave_iff (fun _ g hq => singleKeys_iff fn env hq g) sched
    (asks_registering g reqs)).mp ?_).2
  rw [registering, hstore, hrun]
  exact hlast

end Interleaving

end CrazyIvan
