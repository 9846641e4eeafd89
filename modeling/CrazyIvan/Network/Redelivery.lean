import CrazyIvan.Network.SceneDevices

/-!
Requests that are delivered again, after other messages.

* `Request.Severs`, `registrationIds_kept`: without a deregistration of the two, or a deletion
  of the scene, the registrations of a device to a scene stay.
* `Request.created`, `scenes_eq_nil_of_change`: a scene that is not there stays away until it is
  created.
* `Repeats`, `Request.Undoes`, `redelivered`: a registration, a deletion or a deregistration that
  is delivered again leaves the database as it is, if no message in between undoes the first.
-/

namespace CrazyIvan

open Cypher Resumption

section Redelivery

variable {R : Type} [Field R]

/-! ### What a request can undo -/

/-- A request that can take a device out of a scene. -/
def Request.Severs (r : Request R) (sk dk : String) : Prop :=
  r.deleted = some sk ∨ (∃ m, r = .deregister m) ∧ r.pair = some (sk, dk)

/-- The key of the scene that a request can create. -/
def Request.created : Request R → Option String
  | .create uuid m => m.scenes.head?.map (newSceneKey uuid)
  | .register _ uuids m => m.scenes.head?.map (newSceneKey uuids.scene)
  | _ => none

/-- A request that can undo what another has done. -/
inductive Request.Undoes (r' : Request R) : Request R → Prop
  | register {cfg : Config} {uuids : Uuids} {m : SceneList R} {sk dk : String}
      (h : (Request.register cfg uuids m).pair = some (sk, dk)) (h' : r'.Severs sk dk) :
      Undoes r' (.register cfg uuids m)
  | delete {m : SceneList R} {sk : String} (h : (Request.delete m).deleted = some sk)
      (h' : r'.created = some sk) : Undoes r' (.delete m)
  | deregister {m : SceneList R} {sk dk : String}
      (h : (Request.deregister m).pair = some (sk, dk)) (h' : r'.Registers sk dk) :
      Undoes r' (.deregister m)

/-! ### The changes -/

variable [LinearOrder R] {fn : String → R → R} {env : Env R} {g g' : Graph R} {r : Request R}

/-- A change by a request that does not take the device out of the scene: the registrations
stay, and others are added behind them. -/
lemma registrationIds_kept {sk dk : String} (hr : ¬ r.Severs sk dk) (hg : SingleParent g)
    (h : Change fn env g r g') : registrationIds g sk dk <+: registrationIds g' sk dk := by
  have hsame : registrationsTo g' sk dk = registrationsTo g sk dk →
      registrationIds g sk dk <+: registrationIds g' sk dk := fun heq => by
    rw [registrationIds, registrationRecords, ← heq]
    exact List.prefix_rfl
  cases h with
  | none => exact List.prefix_rfl
  | create hm hnew hscn => exact hsame (registrationsTo_addNode ..)
  | enter hm hnew hscn => exact hsame (registrationsTo_addNode ..)
  | @attach cfg uuids m scn rest dev devs hm hdev hkey _ ts hts =>
      by_cases hpair : sk = scn.key ∧ dk = newDeviceKey uuids dev
      · obtain ⟨rfl, rfl⟩ := hpair
        rw [registrationIds, registrationIds, registrationRecords, registrationRecords,
          registrationsTo_attached hts, List.map_append, List.map_append]
        exact List.prefix_append _ _
      · exact hsame (registrationsTo_attached_of_ne hts hpair)
  | update hm hkey hscn =>
      rw [registrationIds, registrationIds, registrationRecords_updateScenes]
  | delete hm hkey =>
      refine hsame (registrationsTo_delete g (fun h => hr (.inl ?_)) dk)
      rw [deleted_delete hm, h]
  | setRegistrations hm hdev t =>
      rw [registrationIds, registrationIds, registrationRecords, registrationRecords,
        setRegistrations, registrationsTo_mapRels, List.map_map, List.map_map, List.map_map]
      exact List.prefix_rfl
  | link hm hts => exact hsame (registrationsTo_linked hts sk dk)
  | remove hm hdev =>
      refine hsame (registrationsTo_remove hg fun h => hr (.inr ⟨⟨_, rfl⟩, ?_⟩))
      rw [pair_deregister hm hdev, h]

/-- A change by a request that does not create the scene. -/
lemma scenes_eq_nil_of_change {k : String} (hr : r.created ≠ some k) (hnone : scenes g k = [])
    (h : Change fn env g r g') : scenes g' k = [] := by
  have hnodes : g'.nodes = g.nodes → scenes g' k = [] := fun heq => by
    rw [scenes, heq]
    exact hnone
  have hdeleted : ∀ ids : List ℕ, scenes (g.detachDelete ids) k = [] := fun ids => by
    rw [scenes, Graph.nodes_detachDelete, List.filter_comm, ← scenes, hnone, List.filter_nil]
  have hadded : ∀ (newId : String) (scn : SceneDocument R), newId ≠ "" → newId ≠ k →
      scenes (g.addNode "Scene" (sceneProps newId scn)) k = [] := fun newId scn hnew hk => by
    rw [scenes_addNode, sceneProps_key hnew, hnone, if_neg fun h => hk (Value.str.inj
      (Option.some.inj h))]
    rfl
  cases h with
  | none => exact hnone
  | create hm hnew hscn =>
      refine hadded _ _ hnew fun hk => hr ?_
      rw [Request.created, hm, ← hk]
      rfl
  | enter hm hnew hscn =>
      refine hadded _ _ hnew fun hk => hr ?_
      rw [Request.created, hm, ← hk]
      rfl
  | attach hm hdev hkey hts => exact (scenes_attached hts k).trans hnone
  | @update m scn rest hm hkey hscn =>
      rw [scenes, updateScenes, Graph.nodes_mapNodes, List.filter_eq_nil_iff]
      intro n' hn' hscene
      obtain ⟨n, hn, rfl⟩ := List.mem_map.mp hn'
      obtain ⟨hlabel, hkey'⟩ := of_decide_eq_true hscene
      have hmem : n ∈ scenes g k := by
        refine mem_scenes.mpr ⟨hn, hlabel, ?_⟩
        dsimp only at hkey'
        split at hkey'
        · rwa [updateProps_key] at hkey'
        · exact hkey'
      rw [hnone] at hmem
      cases hmem
  | delete hm hkey => exact hdeleted _
  | setRegistrations hm hdev t => exact hnodes (nodes_setRegistrations ..)
  | link hm hts => exact hnodes hts.nodes
  | remove hm hdev => exact hdeleted _

/-! ### The redelivery -/

/-- A request that is delivered again, with what the server adds to a message: a registration
of a device with a key to a scene that is there or can be created, a deletion or a
deregistration. -/
inductive Repeats (g : Graph R) : Request R → Request R → Prop
  | register {cfg cfg' : Config} {uuids uuids' : Uuids} {m : SceneList R} {scn : SceneDocument R}
      {rest : List (SceneDocument R)} {dev : UserDevice R} {devs : List (UserDevice R)}
      (hscn : m.scenes = scn :: rest) (hdev : scn.devices = dev :: devs) (hkey : dev.key ≠ "")
      (hscene : scenes g scn.key ≠ [] ∨ scn.key ≠ "" ∧ Storable scn) :
      Repeats g (.register cfg uuids m) (.register cfg' uuids' m)
  | delete {m : SceneList R} : Repeats g (.delete m) (.delete m)
  | deregister {m : SceneList R} : Repeats g (.deregister m) (.deregister m)

/-- A request whose queries change nothing. -/
lemma serve_eq_of_change (hI : ∀ g', Change fn env g r g' → g' = g) :
    serve fn env g r = g := by
  refine Prog.Asks.run_invariant (I := fun g' => g' = g) (db fn) (fun q g' hq hg' => ?_)
    (asked_program r) rfl
  subst hg'
  exact hI _ (change_of_asked fn hq _)

/-- A deletion where there is no scene with the key. -/
lemma serve_delete_of_nil {m : SceneList R}
    (hnone : ∀ k, k ≠ "" → (Request.delete m).deleted = some k → scenes g k = []) :
    serve fn env g (.delete m) = g := by
  refine serve_eq_of_change fun g' h => ?_
  cases h with
  | none => rfl
  | delete hm hkey =>
      rw [hnone _ hkey (deleted_delete hm), List.map_nil, Graph.detachDelete_nil]

/-- A deregistration where there is no registration of the two. -/
lemma serve_deregister_of_nil {m : SceneList R}
    (hnone : ∀ sk dk, (Request.deregister m).pair = some (sk, dk) → registrationsTo g sk dk = []) :
    serve fn env g (.deregister m) = g := by
  refine serve_eq_of_change fun g' h => ?_
  cases h with
  | none => rfl
  | remove hm hdev =>
      rw [hnone _ _ (pair_deregister hm hdev), List.map_nil, Graph.detachDelete_nil]

omit [Field R] in
lemma registrationsTo_eq_nil_iff {sk dk : String} :
    registrationsTo g sk dk = [] ↔ registrationIds g sk dk = [] := by
  rw [registrationIds, registrationRecords, List.map_eq_nil_iff, List.map_eq_nil_iff]

/-- A registration of a device that is registered to the scene. -/
lemma Consistent.serve_register_of_registered (hg : Consistent env.glm g) (cfg : Config)
    {uuids : Uuids} {m : SceneList R} {scn : SceneDocument R} {rest : List (SceneDocument R)}
    {dev : UserDevice R} {devs : List (UserDevice R)} (hscn : m.scenes = scn :: rest)
    (hdev : scn.devices = dev :: devs)
    (hregs : registrationsTo g scn.key (newDeviceKey uuids dev) ≠ []) :
    serve fn env g (.register cfg uuids m) = g := by
  obtain ⟨t, ht⟩ := List.exists_mem_of_ne_nil _ hregs
  obtain ⟨htriple, hscene, -, -⟩ := mem_registrationsTo.mp ht
  have hscenes : scenes g scn.key ≠ [] :=
    List.ne_nil_of_mem (mem_scenes.mpr ⟨g.src_mem_of_triple htriple, hscene⟩)
  rw [hg.serve_register fn cfg uuids m dev hscn hdev, if_neg hscenes, if_neg hregs, ite_self]

section Served

variable {ms : List (Message R)} (os : List Outcome) (sched : List ℕ)

/-- Registrations that no message severs stay, at every point of every interleaving. -/
lemma registrationIds_prefix_served {sk dk : String}
    (hms : ∀ r, .request r ∈ ms → ¬ r.Severs sk dk) (hg : SingleParent g) :
    registrationIds g sk dk <+: registrationIds (served fn env os g ms sched) sk dk := by
  refine (serving_invariant_of_changes fn (I := fun g' => SingleParent g' ∧
    registrationIds g sk dk <+: registrationIds g' sk dk) (fun r hr g₁ g₂ h hg₁ => ⟨?_, ?_⟩)
    ⟨hg, List.prefix_rfl⟩ os sched).2
  · exact SingleParent.effect (h.effect fn) hg₁.1
  · exact hg₁.2.trans (registrationIds_kept (hms r hr) hg₁.1 h)

lemma redelivered_register (hg : Consistent env.glm g) {cfg cfg' : Config}
    {uuids uuids' : Uuids} {m : SceneList R} {scn : SceneDocument R}
    {rest : List (SceneDocument R)} {dev : UserDevice R} {devs : List (UserDevice R)}
    (hscn : m.scenes = scn :: rest) (hdev : scn.devices = dev :: devs) (hkey : dev.key ≠ "")
    (hscene : scenes g scn.key ≠ [] ∨ scn.key ≠ "" ∧ Storable scn)
    (hms : ∀ r, .request r ∈ ms → ¬ r.Undoes (.register cfg uuids m)) :
    let g₁ := served fn env os (serve fn env g (.register cfg uuids m)) ms sched
    serve fn env g₁ (.register cfg' uuids' m) = g₁ := by
  have hdk : ∀ uuids : Uuids, newDeviceKey uuids dev = dev.key := fun _ => if_neg hkey
  have hserve := hg.of_serve fn (.register cfg uuids m)
  have hids : registrationsTo (serve fn env g (.register cfg uuids m)) scn.key dev.key ≠ [] := by
    by_cases hnone : registrationsTo g scn.key dev.key = []
    · have hregistered : ∃ e ∈ registrationRecords (serve fn env g (.register cfg uuids m)) scn.key
          (newDeviceKey uuids dev), deviceAddress e.2.2.props = some (dev.hostname, dev.port) :=
        hg.exists_registered cfg hscn hdev (by rwa [hdk]) hscene (by rwa [hdk])
      obtain ⟨e, he, -⟩ := hregistered
      obtain ⟨t, ht, -⟩ := List.mem_map.mp he
      rw [hdk] at ht
      exact List.ne_nil_of_mem ht
    · rwa [hg.serve_register_of_registered cfg hscn hdev (by rwa [hdk])]
  have hkept : registrationIds (serve fn env g (.register cfg uuids m)) scn.key dev.key
      <+: registrationIds (served fn env os (serve fn env g (.register cfg uuids m)) ms sched)
        scn.key dev.key :=
    registrationIds_prefix_served os sched (fun r hr hsevers => hms r hr
      (.register (by rw [pair_register hscn hdev, hdk]) hsevers)) hserve.parent
  have hg₁ : Consistent env.glm
      (served fn env os (serve fn env g (.register cfg uuids m)) ms sched) :=
    serving_invariant_of_changes fn (fun _ _ _ _ h hg => hg.change h) hserve os sched
  refine hg₁.serve_register_of_registered cfg' hscn hdev ?_
  rw [hdk, ne_eq, registrationsTo_eq_nil_iff]
  intro hnil
  rw [hnil, List.prefix_nil, ← registrationsTo_eq_nil_iff] at hkept
  exact hids hkept

lemma redelivered_delete {m : SceneList R}
    (hms : ∀ r, .request r ∈ ms → ¬ r.Undoes (.delete m)) :
    let g₁ := served fn env os (serve fn env g (.delete m)) ms sched
    serve fn env g₁ (.delete m) = g₁ := by
  refine serve_delete_of_nil fun k hk hdeleted => ?_
  have hnone : scenes (serve fn env g (.delete m)) k = [] := by
    cases hm : m.scenes with
    | nil => simp [Request.deleted, hm] at hdeleted
    | cons scn rest =>
        obtain rfl : scn.key = k := Option.some.inj ((deleted_delete hm).symm.trans hdeleted)
        rw [serve_delete fn env hm, if_neg hk, scenes, Graph.nodes_detachDelete]
        refine List.filter_eq_nil_iff.mpr fun n hn hscene => ?_
        obtain ⟨hmem, hnot⟩ := List.mem_filter.mp hn
        exact of_decide_eq_true hnot ((mem_scenes_ids hmem).mpr (of_decide_eq_true hscene))
  exact serving_invariant_of_changes fn (I := fun g' => scenes g' k = [])
    (fun r hr _ _ h hnone => scenes_eq_nil_of_change
      (fun hcreated => hms r hr (.delete hdeleted hcreated)) hnone h) hnone os sched

lemma redelivered_deregister {m : SceneList R}
    (hms : ∀ r, .request r ∈ ms → ¬ r.Undoes (.deregister m)) :
    let g₁ := served fn env os (serve fn env g (.deregister m)) ms sched
    serve fn env g₁ (.deregister m) = g₁ := by
  refine serve_deregister_of_nil fun sk dk hpair => ?_
  have hnone : registrationsTo (serve fn env g (.deregister m)) sk dk = [] := by
    cases hm : m.scenes with
    | nil => simp [Request.pair, hm] at hpair
    | cons scn rest =>
        cases hdev : scn.devices with
        | nil => simp [Request.pair, hm, hdev] at hpair
        | cons dev devs =>
            obtain ⟨rfl, rfl⟩ := Prod.mk.inj
              (Option.some.inj ((pair_deregister hm hdev).symm.trans hpair))
            rw [serve_deregister fn env hm hdev, registrationsTo_detachDelete]
            refine List.filter_eq_nil_iff.mpr fun t ht hnot => ?_
            exact (of_decide_eq_true hnot).2 (List.mem_map_of_mem ht)
  rw [registrationsTo_eq_nil_iff] at hnone ⊢
  refine serving_invariant_of_changes fn (I := fun g' => registrationIds g' sk dk = [])
    (fun r hr _ _ h hnil => ?_) hnone os sched
  have hsub := registrationIds_change
    (fun hregisters => hms r hr (.deregister hpair hregisters)) h
  rw [hnil] at hsub
  exact List.sublist_nil.mp hsub

/-- Whatever messages come in between, however their queries are interleaved and whatever becomes
of them: if none undoes the first delivery, the second changes nothing. -/
theorem redelivered (hg : Consistent env.glm g) {r' : Request R} (hr : Repeats g r r')
    (hms : ∀ r₁, .request r₁ ∈ ms → ¬ r₁.Undoes r) :
    let g₁ := served fn env os (serve fn env g r) ms sched
    serve fn env g₁ r' = g₁ := by
  cases hr with
  | register hscn hdev hkey hscene =>
      exact redelivered_register os sched hg hscn hdev hkey hscene hms
  | delete => exact redelivered_delete os sched hms
  | deregister => exact redelivered_deregister os sched hms

end Served

/-- `redelivered` for a registration that comes again with other keys made by the server, after
the deletion of another scene that has failed. -/
theorem redelivered_someMsg :
    let g := served (fun _ x => x) plainEnv [.throw true "timeout"]
      (serve (fun _ x => x) plainEnv Graph.empty (.register plainCfg ⟨"", ""⟩ someMsg))
      [.request (.delete { scenes := [otherScene] })] [0]
    serve (fun _ x => x) plainEnv g (.register plainCfg ⟨"d2", "s2"⟩ someMsg) = g := by
  refine redelivered _ _ .empty (.register scenes_someMsg devices_someScene (by decide)
    (.inr (by decide))) fun r hr hundoes => ?_
  obtain rfl : r = .delete { scenes := [otherScene] } := by simpa using hr
  cases hundoes with
  | register hpair hsevers =>
      rw [pair_register scenes_someMsg devices_someScene] at hpair
      obtain ⟨rfl, rfl⟩ := Prod.mk.inj (Option.some.inj hpair)
      rcases hsevers with hdeleted | ⟨⟨m, heq⟩, -⟩
      · exact absurd hdeleted (by decide)
      · cases heq

end Redelivery

end CrazyIvan
