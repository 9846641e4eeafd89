import CrazyIvan.Network.Effects

/-!
Deregistration deletes a device node with everything attached to it. It removes
one registration, since no device node hangs from two scenes.

* `SingleParent`: the invariant, kept by every effect (`SingleParent.effect`).
* `deregister_removes`: in every reachable graph, deregistering a device from a
  scene removes its registrations to that scene and nothing else.
-/

namespace CrazyIvan

open Cypher Resumption

section Deregistration

variable {R : Type}

/-- Relationships start at scenes, and a device node is the end of at most one. -/
structure SingleParent (g : Graph R) : Prop where
  src : ∀ t ∈ g.triples, t.1.label = "Scene"
  unique : ∀ t ∈ g.triples, ∀ u ∈ g.triples, t.2.2.label = "UserDevice" → t.2.2 = u.2.2 → t = u

namespace SingleParent

variable {g g' : Graph R}

lemma of_subset (h : SingleParent g) (hsub : ∀ t ∈ g'.triples, t ∈ g.triples) :
    SingleParent g' where
  src t ht := h.src t (hsub t ht)
  unique t ht u hu := h.unique t (hsub t ht) u (hsub u hu)

lemma addNode (h : SingleParent g) (label : String) (ps : Props R) :
    SingleParent (g.addNode label ps) :=
  h.of_subset fun t ht => by rwa [Graph.triples_addNode] at ht

lemma detachDelete (h : SingleParent g) (ids : List ℕ) : SingleParent (g.detachDelete ids) :=
  h.of_subset fun t ht => by
    rw [Graph.triples_detachDelete] at ht
    exact List.mem_of_mem_filter ht

/-- New properties of nodes do not matter: the nodes keep their ids. -/
lemma mapNodes (h : SingleParent g) (f : Node R → Props R) : SingleParent (g.mapNodes f) where
  src t ht := by
    rw [Graph.triples_mapNodes] at ht
    obtain ⟨t₀, ht₀, rfl⟩ := List.mem_map.mp ht
    exact h.src t₀ ht₀
  unique t ht u hu hlabel heq := by
    rw [Graph.triples_mapNodes] at ht hu
    obtain ⟨t₀, ht₀, rfl⟩ := List.mem_map.mp ht
    obtain ⟨u₀, hu₀, rfl⟩ := List.mem_map.mp hu
    have hid := congrArg Node.id heq
    change t₀.2.2.id = u₀.2.2.id at hid
    have hdst := g.eq_of_id_eq (g.dst_mem_of_triple ht₀) (g.dst_mem_of_triple hu₀) hid
    rw [h.unique t₀ ht₀ u₀ hu₀ hlabel hdst]

lemma mapRels (h : SingleParent g) (f : Rel R → Props R) : SingleParent (g.mapRels f) where
  src t ht := by
    rw [Graph.triples_mapRels] at ht
    obtain ⟨t₀, ht₀, rfl⟩ := List.mem_map.mp ht
    exact h.src t₀ ht₀
  unique t ht u hu hlabel heq := by
    rw [Graph.triples_mapRels] at ht hu
    obtain ⟨t₀, ht₀, rfl⟩ := List.mem_map.mp ht
    obtain ⟨u₀, hu₀, rfl⟩ := List.mem_map.mp hu
    rw [h.unique t₀ ht₀ u₀ hu₀ hlabel heq]

lemma empty : SingleParent (Graph.empty : Graph R) where
  src t ht := by cases ht
  unique t ht := by cases ht

variable [LinearOrder R]

/-- A registration hangs a new device node under each scene it finds. -/
lemma attach (h : SingleParent g) {l type : String} {dprops rprops : Props R}
    {sk : String} {ts : List (Node R × Rel R × Node R)}
    (hts : Attached l type dprops rprops (scenes g sk) g g' ts) : SingleParent g' where
  src t ht := by
    rw [hts.triples] at ht
    rcases List.mem_append.mp ht with ht | ht
    · exact h.src t ht
    · have hmem : t.1 ∈ scenes g sk := hts.src ▸ List.mem_map_of_mem ht
      exact (mem_scenes.mp hmem).2.1
  unique t ht u hu hlabel heq := by
    have hnodup := g'.nodes_nodup
    rw [hts.nodes, List.map_append, List.nodup_append] at hnodup
    obtain ⟨-, hnew, hdisj⟩ := hnodup
    have hfresh : ∀ t ∈ g.triples, ∀ u ∈ ts, t.2.2 ≠ u.2.2 := fun t ht u hu heq =>
      hdisj _ (List.mem_map_of_mem (g.dst_mem_of_triple ht)) _
        (List.mem_map_of_mem (List.mem_map_of_mem hu)) (congrArg Node.id heq)
    rw [hts.triples] at ht hu
    rcases List.mem_append.mp ht with ht | ht <;> rcases List.mem_append.mp hu with hu | hu
    · exact h.unique t ht u hu hlabel heq
    · exact absurd heq (hfresh t ht u hu)
    · exact absurd heq.symm (hfresh u hu t ht)
    · rw [List.map_map] at hnew
      exact List.inj_on_of_nodup_map hnew ht hu (congrArg Node.id heq)

/-- A link ends in scenes. -/
lemma link (h : SingleParent g) {type : String} {rprops : Props R} {k₁ k₂ : String}
    {ts : List (Node R × Rel R × Node R)}
    (hts : Linked type rprops
      ((scenes g k₁).flatMap fun n => (scenes g k₂).map fun m => (n, m)) g g' ts) :
    SingleParent g' := by
  have hends : ∀ t ∈ ts, t.1.label = "Scene" ∧ t.2.2.label = "Scene" := by
    intro t ht
    have hmem : (t.1, t.2.2) ∈ ts.map fun t => (t.1, t.2.2) := List.mem_map_of_mem ht
    rw [hts.ends] at hmem
    obtain ⟨n, hn, hm⟩ := List.mem_flatMap.mp hmem
    obtain ⟨m, hm, heq⟩ := List.mem_map.mp hm
    obtain ⟨rfl, rfl⟩ := Prod.mk.inj heq
    exact ⟨(mem_scenes.mp hn).2.1, (mem_scenes.mp hm).2.1⟩
  constructor
  · intro t ht
    rw [hts.triples] at ht
    rcases List.mem_append.mp ht with ht | ht
    · exact h.src t ht
    · exact (hends t ht).1
  · intro t ht u hu hlabel heq
    rw [hts.triples] at ht hu
    have hold : ∀ t ∈ g.triples ++ ts, t.2.2.label = "UserDevice" → t ∈ g.triples := by
      intro t ht hlabel
      refine (List.mem_append.mp ht).resolve_right fun ht => ?_
      rw [(hends t ht).2] at hlabel
      exact absurd hlabel (by decide)
    exact h.unique t (hold t ht hlabel) u (hold u hu (heq ▸ hlabel)) hlabel heq

variable [Field R] {fn : String → R → R} {env : Env R}

lemma realignment (h : Realignment env g g') (hg : SingleParent g) : SingleParent g' := by
  cases h with
  | none => exact hg
  | link hts => exact hg.link hts
  | setRegistrations dk sk t => exact hg.mapRels _

lemma maintenance (h : Maintenance fn env g g') (hg : SingleParent g) : SingleParent g' := by
  cases h with
  | realignment h => exact realignment h hg
  | none => exact hg
  | updateScenes opType scn => exact hg.mapNodes _
  | deleteScenes k => exact hg.detachDelete _
  | removeDevices dk sk => exact hg.detachDelete _

/-- Every effect keeps the invariant. -/
theorem effect (h : Effect fn env g g') (hg : SingleParent g) : SingleParent g' := by
  cases h with
  | maintenance hm => exact maintenance hm hg
  | create hnew hscn => exact hg.addNode _ _
  | attach hts => exact hg.attach hts

end SingleParent

/-! ### Deregistration -/

variable [Field R] [LinearOrder R] (fn : String → R → R) (env : Env R)

/-- A message with a scene and a device is one query. -/
lemma serve_deregister {m : SceneList R} {scn : SceneDocument R} {rest : List (SceneDocument R)}
    {dev : UserDevice R} {devs : List (UserDevice R)} (hscn : m.scenes = scn :: rest)
    (hdev : scn.devices = dev :: devs) (g : Graph R) :
    serve fn env g (.deregister m)
      = g.detachDelete ((registrationsTo g scn.key dev.key).map fun t => t.2.2.id) := by
  have herrs : fieldErrs m "registration" = ⟨noError, ""⟩ := by
    rw [fieldErrs, checkFields_eq hscn hdev]
    rfl
  rw [serve, Request.program, processDeregistrationMessage, herrs]
  simp [catching, getScene_zero hscn, getDevice_zero hdev, removeDeviceFromScene, askAndRead,
    answer_remove]

/-- The graph after a scene is deleted. -/
lemma serve_delete {m : SceneList R} {s : SceneDocument R} {rest : List (SceneDocument R)}
    (hm : m.scenes = s :: rest) (g : Graph R) :
    serve fn env g (.delete m)
      = if s.key = "" then g else g.detachDelete ((scenes g s.key).map Node.id) := by
  rw [serve, Request.program, processDeleteMessage, hm]
  dsimp only
  split
  · rfl
  · next hkey => rw [run_askAndRead, answer_deleteScene fn hkey]

omit [Field R] in
/-- A triple loses an end exactly when it is one of the deleted registrations. -/
lemma SingleParent.deleted_iff {g : Graph R} (h : SingleParent g) (sk dk : String)
    {t : Node R × Rel R × Node R} (ht : t ∈ g.triples) :
    (t.1.id ∉ (registrationsTo g sk dk).map (fun t => t.2.2.id) ∧
      t.2.2.id ∉ (registrationsTo g sk dk).map fun t => t.2.2.id) ↔
      t ∉ registrationsTo g sk dk := by
  have hlabel : ∀ u ∈ registrationsTo g sk dk, u ∈ g.triples ∧ u.2.2.label = "UserDevice" :=
    fun u hu => ⟨(mem_registrationsTo.mp hu).1, (mem_registrationsTo.mp hu).2.2.2.1⟩
  constructor
  · rintro ⟨-, hdst⟩ hmem
    exact hdst (List.mem_map_of_mem hmem)
  · intro hnot
    constructor
    · intro hsrc
      obtain ⟨u, hu, hid⟩ := List.mem_map.mp hsrc
      have heq := g.eq_of_id_eq (g.dst_mem_of_triple (hlabel u hu).1) (g.src_mem_of_triple ht) hid
      have := h.src t ht
      rw [← heq, (hlabel u hu).2] at this
      exact absurd this (by decide)
    · intro hdst
      obtain ⟨u, hu, hid⟩ := List.mem_map.mp hdst
      have heq := g.eq_of_id_eq (g.dst_mem_of_triple (hlabel u hu).1) (g.dst_mem_of_triple ht) hid
      exact hnot (h.unique u (hlabel u hu).1 t ht (hlabel u hu).2 heq ▸ hu)

/-- In a graph that a run reaches from the empty one, deregistering a device from
a scene removes the registrations of the device to the scene. The other
registrations of the device, those of other devices and the links between scenes
are as they were. -/
theorem deregister_removes (rs : List (Request R)) {m : SceneList R} {scn : SceneDocument R}
    {rest : List (SceneDocument R)} {dev : UserDevice R} {devs : List (UserDevice R)}
    (hscn : m.scenes = scn :: rest) (hdev : scn.devices = dev :: devs) :
    let g := serveAll fn env Graph.empty rs
    let g' := serve fn env g (.deregister m)
    registrations g' dev.key
        = (registrations g dev.key).filter (fun t => ¬ HasKey "Scene" scn.key t.1) ∧
      (∀ dk, dk ≠ dev.key → registrations g' dk = registrations g dk) ∧
      (g'.triples.filter fun t => IsSceneLink t) = g.triples.filter fun t => IsSceneLink t := by
  intro g g'
  have hg : SingleParent g :=
    serveAll_invariant fn (fun _ _ heff => SingleParent.effect heff) SingleParent.empty rs
  have htriples : g'.triples = g.triples.filter fun t => ¬ (HasKey "Scene" scn.key t.1 ∧
      t.2.1.type = "TRANSFORM" ∧ HasKey "UserDevice" dev.key t.2.2) := by
    rw [show g' = _ from serve_deregister fn env hscn hdev g, Graph.triples_detachDelete]
    refine List.filter_congr fun t ht => ?_
    have hdeleted := hg.deleted_iff scn.key dev.key ht
    rw [Bool.eq_iff_iff, decide_eq_true_eq, decide_eq_true_eq, hdeleted, mem_registrationsTo]
    simp [ht]
  refine ⟨?_, fun dk hdk => ?_, ?_⟩
  · rw [registrations, htriples, List.filter_filter, registrations, List.filter_filter]
    refine List.filter_congr fun t _ => ?_
    rw [Bool.eq_iff_iff]
    simp only [Bool.and_eq_true, decide_eq_true_eq]
    rw [IsRegistration]
    tauto
  · rw [registrations, htriples, List.filter_filter, registrations]
    refine List.filter_congr fun t _ => ?_
    rw [Bool.eq_iff_iff]
    simp only [Bool.and_eq_true, decide_eq_true_eq]
    have hkeys : HasKey "UserDevice" dk t.2.2 → ¬ HasKey "UserDevice" dev.key t.2.2 := by
      rintro ⟨-, h⟩ ⟨-, h'⟩
      exact hdk (Value.str.inj (Option.some.inj (h.symm.trans h')))
    tauto
  · rw [htriples, List.filter_filter]
    refine List.filter_congr fun t _ => ?_
    rw [Bool.eq_iff_iff]
    simp only [Bool.and_eq_true, decide_eq_true_eq]
    have hlabel : IsSceneLink t → ¬ HasKey "UserDevice" dev.key t.2.2 := by
      rintro ⟨-, -, h⟩ ⟨h', -⟩
      rw [h] at h'
      exact absurd h' (by decide)
    tauto

/-- A device that was registered is deregistered. -/
theorem deregister_removes_someMsg :
    let g := serveAll (fun _ x => x) plainEnv Graph.empty [.register plainCfg ⟨"", ""⟩ someMsg]
    let g' := serve (fun _ x => x) plainEnv g (.deregister someMsg)
    registrations g' someDevice.key
        = (registrations g someDevice.key).filter (fun t => ¬ HasKey "Scene" someScene.key t.1) ∧
      (∀ dk, dk ≠ someDevice.key → registrations g' dk = registrations g dk) ∧
      (g'.triples.filter fun t => IsSceneLink t) = g.triples.filter fun t => IsSceneLink t :=
  deregister_removes (fun _ x => x) plainEnv [.register plainCfg ⟨"", ""⟩ someMsg] scenes_someMsg
    devices_someScene

end Deregistration

end CrazyIvan
