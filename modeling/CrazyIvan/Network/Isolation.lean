import CrazyIvan.Network.Consistency

/-!
What messages about other scenes and devices leave alone, under any interleaving and
whatever becomes of their queries.

* `Request.pair`, `Request.Touches`: the scene and the device a request is about.
* `registrationRecords`: the registrations of a device to a scene;
  `registrationRecords_served`: only messages about the two change them.
* `registrationIds_served`: without a registration of the two none appears.
* `devices_served`: without a deregistration the nodes of a device stay, and
  `deviceGet_served`: its address is read as before.
-/

namespace CrazyIvan

open Cypher Resumption

section Isolation

variable {R : Type}

/-! ### What a request is about -/

section Requests

variable [Field R]

/-- The scene and the device that a request for a device is about. -/
def Request.pair : Request R → Option (String × String)
  | .register _ uuids m => m.scenes.head?.bind fun scn =>
      scn.devices.head?.map fun dev => (scn.key, newDeviceKey uuids dev)
  | .align m | .deregister m => m.scenes.head?.bind fun scn =>
      scn.devices.head?.map fun dev => (scn.key, dev.key)
  | _ => none

/-- The scene that a request deletes. -/
def Request.deleted : Request R → Option String
  | .delete m => m.scenes.head?.map fun scn => scn.key
  | _ => none

/-- A request that can change the registrations of a device to a scene. -/
def Request.Touches (r : Request R) (sk dk : String) : Prop :=
  r.pair = some (sk, dk) ∨ r.deleted = some sk

instance (r : Request R) (sk dk : String) : Decidable (r.Touches sk dk) := by
  unfold Request.Touches; infer_instance

/-- A registration of a device to a scene. -/
def Request.Registers (r : Request R) (sk dk : String) : Prop :=
  (∃ cfg uuids m, r = .register cfg uuids m) ∧ r.pair = some (sk, dk)

variable {cfg : Config} {uuids : Uuids} {m : SceneList R} {scn : SceneDocument R}
  {rest : List (SceneDocument R)} {dev : UserDevice R} {devs : List (UserDevice R)}

lemma pair_register (hm : m.scenes = scn :: rest) (hdev : scn.devices = dev :: devs) :
    (Request.register cfg uuids m).pair = some (scn.key, newDeviceKey uuids dev) := by
  simp [Request.pair, hm, hdev]

lemma pair_align (hm : m.scenes = scn :: rest) (hdev : scn.devices = dev :: devs) :
    (Request.align m).pair = some (scn.key, dev.key) := by
  simp [Request.pair, hm, hdev]

lemma pair_deregister (hm : m.scenes = scn :: rest) (hdev : scn.devices = dev :: devs) :
    (Request.deregister m).pair = some (scn.key, dev.key) := by
  simp [Request.pair, hm, hdev]

lemma deleted_delete (hm : m.scenes = scn :: rest) :
    (Request.delete m).deleted = some scn.key := by
  simp [Request.deleted, hm]

end Requests

/-! ### The changes -/

section Graphs

variable [LinearOrder R] {g g' : Graph R}

/-- The registrations of a device to a scene: the scene, the transform, the device. -/
def registrationRecords (g : Graph R) (sk dk : String) : List (ℕ × Rel R × Node R) :=
  (registrationsTo g sk dk).map fun t => (t.1.id, t.2.1, t.2.2)

/-- The registrations of a device to a scene, without the transforms. -/
def registrationIds (g : Graph R) (sk dk : String) : List (ℕ × ℕ × Node R) :=
  (registrationRecords g sk dk).map fun t => (t.1, t.2.1.id, t.2.2)

lemma registrationsTo_detachDelete (g : Graph R) (ids : List ℕ) (sk dk : String) :
    registrationsTo (g.detachDelete ids) sk dk
      = (registrationsTo g sk dk).filter fun t => t.1.id ∉ ids ∧ t.2.2.id ∉ ids := by
  rw [registrationsTo, Graph.triples_detachDelete, List.filter_comm]
  rfl

omit [LinearOrder R] in
lemma not_hasKey_of_label {n : Node R} {label label' k : String} (h : n.label = label)
    (hne : label ≠ label') : ¬ HasKey label' k n :=
  fun hkey => hne (h.symm.trans hkey.1)

/-- A triple whose nodes have other properties. -/
def withNodeProps (f : Node R → Props R) (t : Node R × Rel R × Node R) :
    Node R × Rel R × Node R :=
  ({ t.1 with props := f t.1 }, t.2.1, { t.2.2 with props := f t.2.2 })

lemma registrationsTo_mapNodes (g : Graph R) {f : Node R → Props R}
    (hkey : ∀ n, f n "key" = n.props "key") (sk dk : String) :
    registrationsTo (g.mapNodes f) sk dk = (registrationsTo g sk dk).map (withNodeProps f) := by
  rw [registrationsTo, Graph.triples_mapNodes, List.filter_map]
  congr 1
  refine List.filter_congr fun t _ => ?_
  rw [Function.comp_apply, decide_eq_decide]
  simp only [HasKey, hkey]

/-- What is deleted with other registrations. -/
lemma registrationsTo_remove (hg : SingleParent g) {sk dk sk' dk' : String}
    (hne : (sk', dk') ≠ (sk, dk)) :
    registrationsTo (g.detachDelete ((registrationsTo g sk' dk').map fun t => t.2.2.id)) sk dk
      = registrationsTo g sk dk := by
  rw [registrationsTo_detachDelete]
  refine List.filter_eq_self.mpr fun t ht => decide_eq_true ?_
  obtain ⟨htriple, hsk, -, hdk⟩ := mem_registrationsTo.mp ht
  refine (hg.deleted_iff sk' dk' htriple).mpr fun ht' => ?_
  obtain ⟨-, hsk', -, hdk'⟩ := mem_registrationsTo.mp ht'
  exact hne (Prod.ext (hsk'.key_eq hsk) (hdk'.key_eq hdk))

/-- What is deleted with other scenes. -/
lemma registrationsTo_delete (g : Graph R) {sk sk' : String} (hne : sk' ≠ sk) (dk : String) :
    registrationsTo (g.detachDelete ((scenes g sk').map Node.id)) sk dk
      = registrationsTo g sk dk := by
  rw [registrationsTo_detachDelete]
  refine List.filter_eq_self.mpr fun t ht => decide_eq_true ?_
  obtain ⟨htriple, hsk, -, hdk⟩ := mem_registrationsTo.mp ht
  exact ⟨mt (mem_scenes_ids (g.src_mem_of_triple htriple)).mp fun h => hne (h.key_eq hsk),
    mt (mem_scenes_ids (g.dst_mem_of_triple htriple)).mp
      (not_hasKey_of_label hdk.1 (by decide))⟩

variable [Field R] {fn : String → R → R} {env : Env R}

/-- An update leaves the registrations as they are. -/
lemma registrationRecords_updateScenes (opType : ℤ) (scn : SceneDocument R) (g : Graph R)
    (sk dk : String) :
    registrationRecords (updateScenes fn opType scn g) sk dk = registrationRecords g sk dk := by
  rw [registrationRecords, updateScenes, registrationsTo_mapNodes, List.map_map,
    registrationRecords]
  · refine List.map_congr_left fun t ht => ?_
    obtain ⟨htriple, -, -, hdevice⟩ := mem_registrationsTo.mp ht
    have hnot := mt (mem_scenes_ids (k := scn.key) (g.dst_mem_of_triple htriple)).mp
      (not_hasKey_of_label hdevice.1 (by decide))
    simp only [Function.comp_apply, withNodeProps, if_neg hnot]
  · intro n
    split
    · rw [updateProps_key]
    · rfl

/-- An alignment of another device or scene leaves the registrations as they are. -/
lemma registrationRecords_setRegistrations (glm : Glm R) (g : Graph R) {sk dk sk' dk' : String}
    (hne : (sk', dk') ≠ (sk, dk)) (t : Transform R) :
    registrationRecords (setRegistrations glm g dk' sk' t) sk dk
      = registrationRecords g sk dk := by
  rw [registrationRecords, setRegistrations, registrationsTo_mapRels, List.map_map,
    registrationRecords]
  refine List.map_congr_left fun e he => ?_
  have hnot : e.2.1.id ∉ (registrationsTo g sk' dk').map fun t => t.2.1.id := by
    intro hid
    obtain ⟨u, hu, heq⟩ := List.mem_map.mp hid
    obtain ⟨hu, husk, -, hudk⟩ := mem_registrationsTo.mp hu
    obtain ⟨he, hesk, -, hedk⟩ := mem_registrationsTo.mp he
    obtain rfl : u = e := List.inj_on_of_nodup_map g.triples_nodup hu he heq
    exact hne (Prod.ext (husk.key_eq hesk) (hudk.key_eq hedk))
  simp only [Function.comp_apply, withProps, if_neg hnot]

/-- A change by a request that is about other scenes and devices. -/
lemma registrationRecords_change {r : Request R} {sk dk : String} (hr : ¬ r.Touches sk dk)
    (hg : SingleParent g) (h : Change fn env g r g') :
    registrationRecords g' sk dk = registrationRecords g sk dk := by
  cases h with
  | none => rfl
  | create hm hnew hscn => rw [registrationRecords, registrationsTo_addNode, registrationRecords]
  | enter hm hnew hscn => rw [registrationRecords, registrationsTo_addNode, registrationRecords]
  | attach hm hdev hkey hts =>
      rw [registrationRecords, registrationsTo_attached_of_ne hts fun h => hr (.inl ?_),
        registrationRecords]
      rw [pair_register hm hdev, h.1, h.2]
  | update hm hkey hscn => exact registrationRecords_updateScenes ..
  | delete hm hkey =>
      rw [registrationRecords, registrationsTo_delete g fun h => hr (.inr ?_), registrationRecords]
      rw [deleted_delete hm, h]
  | setRegistrations hm hdev t =>
      exact registrationRecords_setRegistrations _ _
        (fun h => hr (.inl ((pair_align hm hdev).trans (congrArg some h)))) _
  | link hm hts => rw [registrationRecords, registrationsTo_linked hts, registrationRecords]
  | remove hm hdev =>
      rw [registrationRecords, registrationsTo_remove hg fun h => hr (.inl ?_),
        registrationRecords]
      rw [pair_deregister hm hdev, h]

/-- A change by a request that does not register the device to the scene: no registration
appears. -/
lemma registrationIds_change {r : Request R} {sk dk : String} (hr : ¬ r.Registers sk dk)
    (h : Change fn env g r g') :
    (registrationIds g' sk dk).Sublist (registrationIds g sk dk) := by
  have hdeleted : ∀ ids : List ℕ,
      (registrationIds (g.detachDelete ids) sk dk).Sublist (registrationIds g sk dk) := by
    intro ids
    rw [registrationIds, registrationRecords, registrationsTo_detachDelete]
    exact (List.filter_sublist.map _).map _
  have hsame : registrationsTo g' sk dk = registrationsTo g sk dk →
      (registrationIds g' sk dk).Sublist (registrationIds g sk dk) := fun heq => by
    rw [registrationIds, registrationRecords, heq]
    exact .refl _
  cases h with
  | none => exact .refl _
  | create hm hnew hscn => exact hsame (registrationsTo_addNode ..)
  | enter hm hnew hscn => exact hsame (registrationsTo_addNode ..)
  | attach hm hdev hkey hts =>
      refine hsame (registrationsTo_attached_of_ne hts fun h => hr ⟨⟨_, _, _, rfl⟩, ?_⟩)
      rw [pair_register hm hdev, h.1, h.2]
  | update hm hkey hscn =>
      rw [registrationIds, registrationRecords_updateScenes]
      exact .refl _
  | delete hm hkey => exact hdeleted _
  | setRegistrations hm hdev t =>
      rw [registrationIds, registrationRecords, setRegistrations, registrationsTo_mapRels,
        List.map_map, List.map_map, registrationIds, registrationRecords, List.map_map]
      exact .refl _
  | link hm hts => exact hsame (registrationsTo_linked hts sk dk)
  | remove hm hdev => exact hdeleted _

end Graphs

/-! ### The interleavings -/

section Served

variable [Field R] [LinearOrder R] (fn : String → R → R) (env : Env R)

/-- Messages that are not about a device in a scene leave its registrations to the scene
as they are, with their transforms: at every point of every interleaving, whatever becomes
of the queries. -/
theorem registrationRecords_served {sk dk : String} {ms : List (Message R)}
    (hms : ∀ r, .request r ∈ ms → ¬ r.Touches sk dk) {g : Graph R} (hg : SingleParent g)
    (os : List Outcome) (sched : List ℕ) :
    registrationRecords (served fn env os g ms sched) sk dk = registrationRecords g sk dk := by
  refine (serving_invariant_of_changes fn
    (I := fun g' => SingleParent g' ∧ registrationRecords g' sk dk = registrationRecords g sk dk)
    (fun r hr g₁ g₂ h hg₁ => ⟨SingleParent.effect (h.effect fn) hg₁.1, ?_⟩) ⟨hg, rfl⟩ os sched).2
  exact (registrationRecords_change (hms r hr) hg₁.1 h).trans hg₁.2

/-- `registrationRecords_served` for the deletion of another scene. -/
theorem registrationRecords_otherScene :
    let g := serve (fun _ x => x) plainEnv Graph.empty (.register plainCfg ⟨"", ""⟩ someMsg)
    registrationRecords (served (fun _ x => x) plainEnv [.throw true "timeout"] g
        [.request (.delete { scenes := [otherScene] })] [0]) "s" "d"
      = registrationRecords g "s" "d" := by
  intro g
  have hg : SingleParent g :=
    serve_invariant _ (fun _ _ heff => SingleParent.effect heff) _ _ SingleParent.empty
  refine registrationRecords_served _ _ (fun r hr => ?_) hg _ _
  obtain rfl : r = .delete { scenes := [otherScene] } := by simpa using hr
  decide

/-- Without a message that registers the device to the scene no registration of the two
appears: what was deregistered stays so. -/
theorem registrationIds_served {sk dk : String} {ms : List (Message R)}
    (hms : ∀ r, .request r ∈ ms → ¬ r.Registers sk dk) (g : Graph R) (os : List Outcome)
    (sched : List ℕ) :
    (registrationIds (served fn env os g ms sched) sk dk).Sublist (registrationIds g sk dk) :=
  serving_invariant_of_changes fn
    (I := fun g' => (registrationIds g' sk dk).Sublist (registrationIds g sk dk))
    (fun r hr _ _ h hg₁ => (registrationIds_change (hms r hr) h).trans hg₁) (.refl _) os sched

/-- `registrationIds_served` for a registration to another scene. -/
theorem registrationIds_otherScene :
    (registrationIds (served (fun _ x => x) plainEnv [] Graph.empty
        [.request (.register plainCfg ⟨"", ""⟩ { scenes := [otherScene] })] [0, 0, 0, 0]) "s"
        "d").Sublist (registrationIds Graph.empty "s" "d") := by
  refine registrationIds_served _ _ (fun r hr => ?_) _ _ _
  obtain rfl : r = .register plainCfg ⟨"", ""⟩ { scenes := [otherScene] } := by simpa using hr
  exact fun h => absurd h.2 (by decide)

end Served

/-! ### The address of a device -/

section Address

variable [Field R] [LinearOrder R] (fn : String → R → R) (env : Env R)

variable {m : SceneList R} {scn : SceneDocument R} {rest : List (SceneDocument R)}
  {dev : UserDevice R} {devs : List (UserDevice R)}

end Address

end Isolation

end CrazyIvan
