import CrazyIvan.Network.Delivery
import CrazyIvan.Network.Effects
import CrazyIvan.Network.Deregistration

/-!
Keys in the graph of a run, one message at a time.

* `UniqueKeys`: no two scenes and no two devices share a key.
* `serve_register`: what a registration does to the graph.
* `KeepsKeys`: a message whose creations, if there are any, meet no node with the
  key; `uniqueKeys_of_along`: on a run of such messages the keys stay unique.
-/

namespace CrazyIvan

open Cypher Resumption

section Uniqueness

variable {R : Type} [LinearOrder R]

/-- No two scenes and no two devices share a key. -/
def UniqueKeys (g : Graph R) : Prop :=
  ∀ k, (scenes g k).length ≤ 1 ∧ (devices g k).length ≤ 1

/-! ### Maintenance -/

namespace UniqueKeys

variable {g g' : Graph R}

lemma empty : UniqueKeys (Graph.empty : Graph R) := fun _ => ⟨Nat.zero_le _, Nat.zero_le _⟩

lemma of_nodes_eq (h : UniqueKeys g) (hnodes : g'.nodes = g.nodes) : UniqueKeys g' := fun k => by
  rw [scenes, devices, hnodes]
  exact h k

lemma detachDelete (h : UniqueKeys g) (ids : List ℕ) : UniqueKeys (g.detachDelete ids) :=
  fun k => ⟨((List.filter_sublist.filter _).length_le).trans (h k).1,
    ((List.filter_sublist.filter _).length_le).trans (h k).2⟩

/-- New properties that leave the key alone. -/
lemma mapNodes (h : UniqueKeys g) {f : Node R → Props R}
    (hkey : ∀ n, f n "key" = n.props "key") : UniqueKeys (g.mapNodes f) := by
  have hlen : ∀ label k, ((g.mapNodes f).nodes.filter fun n => HasKey label k n).length
      = (g.nodes.filter fun n => HasKey label k n).length := by
    intro label k
    have hcomp : (fun n => decide (HasKey label k n)) ∘ (fun n => { n with props := f n })
        = fun n : Node R => decide (HasKey label k n) := by
      funext n
      simp only [Function.comp_apply, HasKey, hkey n]
    rw [Graph.nodes_mapNodes, List.filter_map, hcomp, List.length_map]
  intro k
  rw [scenes, devices, hlen, hlen]
  exact h k

end UniqueKeys

/-! ### Creations -/

variable {g g' : Graph R}

lemma devices_addNode (g : Graph R) (ps : Props R) (k : String) :
    devices (g.addNode "Scene" ps) k = devices g k := by
  rw [devices, Graph.nodes_addNode, List.filter_append, devices]
  simp [HasKey, Graph.newNode]

/-- A scene under a new key. -/
lemma UniqueKeys.addScene (h : UniqueKeys g) {ps : Props R} {newId : String}
    (hkey : ps "key" = some (.str newId)) (hnew : scenes g newId = []) :
    UniqueKeys (g.addNode "Scene" ps) := by
  intro k
  rw [scenes_addNode, devices_addNode, hkey]
  refine ⟨?_, (h k).2⟩
  by_cases hk : newId = k
  · subst hk
    simp [hnew]
  · have := (h k).1
    simpa [hk] using this

section Attached

variable {sk dk conn host : String} {port : ℤ} {rprops : Props R}
  {ts : List (Node R × Rel R × Node R)}

lemma scenes_attached (hts : Attached "UserDevice" "TRANSFORM" (deviceProps dk conn host port)
    rprops (scenes g sk) g g' ts) (k : String) : scenes g' k = scenes g k := by
  rw [scenes, hts.nodes, List.filter_append, scenes]
  have hnone : (ts.map fun t => t.2.2).filter (fun n => HasKey "Scene" k n) = [] := by
    refine List.filter_eq_nil_iff.mpr fun n hn => ?_
    obtain ⟨t, ht, rfl⟩ := List.mem_map.mp hn
    simp [HasKey, (hts.dst t ht).1]
  rw [hnone, List.append_nil]

lemma devices_attached (hts : Attached "UserDevice" "TRANSFORM" (deviceProps dk conn host port)
    rprops (scenes g sk) g g' ts) (k : String) :
    devices g' k = devices g k ++ if k = dk then ts.map (fun t => t.2.2) else [] := by
  rw [devices, hts.nodes, List.filter_append, devices]
  congr 1
  have hkey : ∀ t ∈ ts, HasKey "UserDevice" dk t.2.2 := fun t ht => (mem_attached hts ht).2.2
  by_cases hk : k = dk
  · subst hk
    rw [if_pos rfl, List.filter_eq_self]
    intro n hn
    obtain ⟨t, ht, rfl⟩ := List.mem_map.mp hn
    exact decide_eq_true (hkey t ht)
  · rw [if_neg hk, List.filter_eq_nil_iff]
    intro n hn
    obtain ⟨t, ht, rfl⟩ := List.mem_map.mp hn
    simp [HasKey, (hkey t ht).2, Ne.symm hk]

/-- A new device, where there is none with its key or no scene to hang it
from. -/
lemma UniqueKeys.attach (h : UniqueKeys g) (hts : Attached "UserDevice" "TRANSFORM"
    (deviceProps dk conn host port) rprops (scenes g sk) g g' ts)
    (hnew : scenes g sk = [] ∨ devices g dk = []) : UniqueKeys g' := by
  have hlen : ts.length = (scenes g sk).length := by rw [← hts.src, List.length_map]
  intro k
  rw [scenes_attached hts, devices_attached hts]
  refine ⟨(h k).1, ?_⟩
  by_cases hk : k = dk
  · subst hk
    rw [if_pos rfl, List.length_append, List.length_map, hlen]
    rcases hnew with hnew | hnew
    · simpa [hnew] using (h k).2
    · simpa [hnew] using (h sk).1
  · simpa [hk] using (h k).2

end Attached

/-! ### The messages -/

variable [Field R] (fn : String → R → R) (env : Env R)

lemma nodes_of_realignment (h : Realignment env g g') : g'.nodes = g.nodes := by
  cases h with
  | none => rfl
  | link hts => exact hts.nodes
  | setRegistrations dk sk t => exact nodes_setRegistrations ..

lemma UniqueKeys.maintenance (h : Maintenance fn env g g') (hg : UniqueKeys g) :
    UniqueKeys g' := by
  cases h with
  | realignment h => exact hg.of_nodes_eq (nodes_of_realignment env h)
  | none => exact hg
  | updateScenes opType scn =>
      refine hg.mapNodes fun n => ?_
      split
      · exact updateProps_key fn opType scn n.props
      · rfl
  | deleteScenes k => exact hg.detachDelete _
  | removeDevices dk sk => exact hg.detachDelete _

/-- The graph after a scene is created, if it can be. -/
def created (uuid : String) (scn : SceneDocument R) (g : Graph R) : Graph R :=
  if newSceneKey uuid scn ≠ "" ∧ Storable scn then
    g.addNode "Scene" (sceneProps (newSceneKey uuid scn) scn)
  else g

lemma run_create {m : SceneList R} {scn : SceneDocument R} {rest : List (SceneDocument R)}
    (hscn : m.scenes = scn :: rest) (uuid : String) (g : Graph R) :
    ∃ response, (processCreateMessage uuid m).run (db fn) g = (.ok response, created uuid scn g) ∧
      (response.successful = true ↔ newSceneKey uuid scn ≠ "" ∧ Storable scn) := by
  rw [processCreateMessage, hscn, created]
  by_cases hkey : newSceneKey uuid scn = ""
  · simp only [if_pos hkey]
    rw [if_neg fun h => h.1 hkey]
    exact ⟨_, rfl, by simp [hkey, ProcessResult.successful, ProcessResult.setError]⟩
  · simp only [if_neg hkey]
    by_cases hscn : Storable scn
    · rw [if_pos ⟨hkey, hscn⟩, askAndRead, Prog.run_bind, Prog.run_query,
        answer_create fn hkey hscn]
      exact ⟨_, rfl, by simp [hkey, hscn, ProcessResult.successful,
        ProcessResult.setReturnString]⟩
    · obtain ⟨what, hwhat⟩ := answer_create_refused fn hkey hscn g
      rw [if_neg fun h => hscn h.2, askAndRead, Prog.run_bind, Prog.run_query, hwhat]
      exact ⟨_, rfl, by simp [hscn, ProcessResult.successful, ProcessResult.setError]⟩

/-- What is left of a device message once its scene is entered: the link, or
nothing. -/
lemma run_linkDevice (cfg : Config) (uuids : Uuids) (m : SceneList R) (scn : SceneDocument R)
    (dev : UserDevice R) (already : Bool) (g : Graph R) :
    ((linkDevice env cfg uuids m scn dev already).run (db fn) g).2 = g ∨
      (already = false ∧ ((linkDevice env cfg uuids m scn dev already).run (db fn) g).2
        = (db fn (linkQuery env uuids scn dev) g).2) := by
  rw [linkDevice, Prog.run_ask, answer_getRegistrations]
  generalize readRegistrations env _ = read
  cases read with
  | error e => cases e <;> exact Or.inl rfl
  | ok regs =>
      rw [orRefuse]
      cases already with
      | true => exact Or.inl (by rw [if_pos rfl, Prog.run_lift])
      | false => exact Or.inr ⟨rfl, by rw [if_neg Bool.false_ne_true, Prog.snd_run_ask_lift]⟩

/-- A registration to a scene that is not there does nothing, or it creates the
scene, and may link the device. -/
lemma run_registration_create {m : SceneList R} {scn : SceneDocument R}
    {rest : List (SceneDocument R)} (hscn : m.scenes = scn :: rest) (dev : UserDevice R)
    (cfg : Config) (uuids : Uuids) {g : Graph R} (hscene : scenes g scn.key = []) :
    let g' := ((registration env cfg uuids m scn dev).run (db fn) g).2
    let g₁ := created uuids.scene scn g
    g' = g ∨ newDeviceKey uuids dev ≠ "" ∧
      (g' = g₁ ∨ Storable scn ∧ newSceneKey uuids.scene scn ≠ "" ∧
        g' = (db fn (linkQuery env uuids scn dev) g₁).2) := by
  intro g' g₁
  have hread : readSceneExists (Answer.rows ((scenes g scn.key).map fun n => [.node n]))
      = .ok false := by rw [hscene]; rfl
  simp only [g', registration]
  rw [Prog.run_ask, answer_sceneExists, hread, orRefuse]
  by_cases hkey : newDeviceKey uuids dev = ""
  · rw [if_pos hkey]
    exact Or.inl rfl
  · refine Or.inr ⟨hkey, ?_⟩
    obtain ⟨response, hrun, hok⟩ := run_create fn hscn uuids.scene g
    rw [if_neg hkey, if_pos (by simp), Prog.run_bind, hrun]
    by_cases hresponse : response.successful = true
    · obtain ⟨hnew, hstorable⟩ := hok.mp hresponse
      simp only [if_neg (not_not.mpr hresponse)]
      rcases run_linkDevice fn env cfg uuids m scn dev false g₁ with hl | ⟨-, hl⟩
      · exact Or.inl hl
      · exact Or.inr ⟨hstorable, hnew, hl⟩
    · simp only [if_pos hresponse]
      exact Or.inl rfl

/-- A registration to a scene that exists does nothing, or it links a device that
is not registered. -/
lemma run_registration_join (m : SceneList R) {scn : SceneDocument R} (dev : UserDevice R)
    (cfg : Config) (uuids : Uuids) {g : Graph R} (hscene : scenes g scn.key ≠ []) :
    let g' := ((registration env cfg uuids m scn dev).run (db fn) g).2
    g' = g ∨ newDeviceKey uuids dev ≠ "" ∧
      registrationsTo g scn.key (newDeviceKey uuids dev) = [] ∧
      g' = (db fn (linkQuery env uuids scn dev) g).2 := by
  intro g'
  have hread : readSceneExists (Answer.rows ((scenes g scn.key).map fun n => [.node n]))
      = .ok true := by
    obtain ⟨n, ns, hns⟩ := List.exists_cons_of_ne_nil hscene
    rw [hns]
    rfl
  simp only [g', registration]
  rw [Prog.run_ask, answer_sceneExists, hread, orRefuse]
  by_cases hkey : newDeviceKey uuids dev = ""
  · rw [if_pos hkey]
    exact Or.inl rfl
  · rw [if_neg hkey, if_neg (by simp), Prog.run_ask, answer_isUdRegistered]
    cases hud : readUdRegistered env (newDeviceKey uuids dev)
        (Answer.rows ((devicesOf g scn.key).map fun n => [.node n])) with
    | error e => cases e <;> exact Or.inl rfl
    | ok already =>
        have halready := scanDevices_ok env hkey hud
        rw [orRefuse]
        rcases run_linkDevice fn env cfg uuids m scn dev already g with hl | ⟨rfl, hl⟩
        · exact Or.inl hl
        · refine Or.inr ⟨hkey, ?_, hl⟩
          rw [exists_devicesOf_iff] at halready
          simpa using halready

/-- What a registration does to the graph: nothing; or it creates the scene, and
may link the device; or it links a device that is not registered to a scene that
exists. -/
theorem serve_register {m : SceneList R} {scn : SceneDocument R} {rest : List (SceneDocument R)}
    {dev : UserDevice R} {devs : List (UserDevice R)} (hscn : m.scenes = scn :: rest)
    (hdev : scn.devices = dev :: devs) (cfg : Config) (uuids : Uuids) (g : Graph R) :
    let g' := serve fn env g (.register cfg uuids m)
    let g₁ := created uuids.scene scn g
    g' = g ∨
    (newDeviceKey uuids dev ≠ "" ∧ scenes g scn.key = [] ∧
      (g' = g₁ ∨ Storable scn ∧ newSceneKey uuids.scene scn ≠ "" ∧
        g' = (db fn (linkQuery env uuids scn dev) g₁).2)) ∨
    (newDeviceKey uuids dev ≠ "" ∧ scenes g scn.key ≠ [] ∧
      registrationsTo g scn.key (newDeviceKey uuids dev) = [] ∧
      g' = (db fn (linkQuery env uuids scn dev) g).2) := by
  intro g' g₁
  have hg' : g' = ((registration env cfg uuids m scn dev).run (db fn) g).2 := by
    rw [← processRegistrationMessage_eq env cfg uuids hscn hdev]
    rfl
  rw [hg']
  by_cases hscene : scenes g scn.key = []
  · rcases run_registration_create fn env hscn dev cfg uuids hscene with hsame | ⟨hkey, hcreate⟩
    · exact Or.inl hsame
    · exact Or.inr (Or.inl ⟨hkey, hscene, hcreate⟩)
  · rcases run_registration_join fn env m dev cfg uuids hscene with hsame | ⟨hkey, hjoin⟩
    · exact Or.inl hsame
    · exact Or.inr (Or.inr ⟨hkey, hscene, hjoin⟩)

/-- A registration to a scene that is not there, where the registrations of the
device can be read. -/
lemma serve_register_new {m : SceneList R} {scn : SceneDocument R}
    {rest : List (SceneDocument R)} {dev : UserDevice R} {devs : List (UserDevice R)}
    (hscn : m.scenes = scn :: rest) (hdev : scn.devices = dev :: devs) (cfg : Config)
    {uuids : Uuids} {g : Graph R} (hkey : newDeviceKey uuids dev ≠ "")
    (hnone : scenes g scn.key = []) (hnew : newSceneKey uuids.scene scn ≠ "" ∧ Storable scn)
    (hregs : (readRegistrations env (.rows ((registrations (created uuids.scene scn g)
      (newDeviceKey uuids dev)).map fun t => [.node t.1, .rel t.2.1, .node t.2.2]))).isOk = true) :
    serve fn env g (.register cfg uuids m)
      = (db fn (linkQuery env uuids scn dev) (created uuids.scene scn g)).2 := by
  obtain ⟨response, hrun, hok⟩ := run_create fn hscn uuids.scene g
  have hserve : serve fn env g (.register cfg uuids m)
      = ((registration env cfg uuids m scn dev).run (db fn) g).2 := by
    rw [← processRegistrationMessage_eq env cfg uuids hscn hdev]
    rfl
  have hread : readSceneExists (Answer.rows ((scenes g scn.key).map fun n => [.node n]))
      = .ok false := by rw [hnone]; rfl
  rw [hserve, registration, Prog.run_ask, answer_sceneExists, hread, orRefuse, if_neg hkey,
    if_pos (by simp), Prog.run_bind, hrun]
  simp only [if_neg (not_not.mpr (hok.mpr hnew)), linkDevice, Prog.run_ask,
    answer_getRegistrations]
  revert hregs
  generalize readRegistrations env _ = read
  cases read with
  | error e =>
      intro h
      cases h
  | ok regs =>
      intro _
      rw [orRefuse, if_neg Bool.false_ne_true, Prog.snd_run_ask_lift]

omit [Field R] in
lemma registrationsTo_of_scenes {sk : String} (h : scenes g sk = [])
    (dk : String) : registrationsTo g sk dk = [] := by
  by_contra hne
  obtain ⟨t, ht⟩ := List.exists_mem_of_ne_nil _ hne
  obtain ⟨htg, hsk, -⟩ := mem_registrationsTo.mp ht
  exact List.ne_nil_of_mem (mem_scenes.mpr ⟨g.src_mem_of_triple htg, hsk⟩) h

/-- A registration of a device that is registered to the scene already. -/
lemma serve_register_registered {m : SceneList R} {scn : SceneDocument R}
    {rest : List (SceneDocument R)} {dev : UserDevice R} {devs : List (UserDevice R)}
    (hscn : m.scenes = scn :: rest) (hdev : scn.devices = dev :: devs) (cfg : Config)
    {uuids : Uuids} {g : Graph R}
    (hreg : registrationsTo g scn.key (newDeviceKey uuids dev) ≠ []) :
    serve fn env g (.register cfg uuids m) = g := by
  rcases serve_register fn env hscn hdev cfg uuids g with
    h | ⟨-, hnone, -⟩ | ⟨-, -, hfree, -⟩
  · exact h
  · exact absurd (registrationsTo_of_scenes hnone _) hreg
  · exact absurd hfree hreg

/-- The keys a message creates nodes under are free: that of a scene it creates,
and that of a device it links and that is not registered in the scene. -/
def KeepsKeys (g : Graph R) : Request R → Prop
  | .create uuid m => ∀ scn ∈ m.scenes.head?,
      newSceneKey uuid scn ≠ "" → Storable scn → scenes g (newSceneKey uuid scn) = []
  | .register _ uuids m => ∀ scn ∈ m.scenes.head?, ∀ dev ∈ scn.devices.head?,
      newDeviceKey uuids dev ≠ "" →
        (scenes g scn.key = [] → newSceneKey uuids.scene scn ≠ "" → Storable scn →
          scenes g (newSceneKey uuids.scene scn) = []) ∧
        (scenes g scn.key ≠ [] ∨ scn.key ≠ "" ∧ Storable scn →
          registrationsTo g scn.key (newDeviceKey uuids dev) = [] →
          devices g (newDeviceKey uuids dev) = [])
  | _ => True

variable {fn env}

lemma UniqueKeys.created (hg : UniqueKeys g) {uuid : String} {scn : SceneDocument R}
    (hnew : newSceneKey uuid scn ≠ "" → Storable scn → scenes g (newSceneKey uuid scn) = []) :
    UniqueKeys (created uuid scn g) := by
  rw [CrazyIvan.created]
  split
  · next h => exact hg.addScene (sceneProps_key h.1 scn) (hnew h.1 h.2)
  · exact hg

lemma UniqueKeys.link (hg : UniqueKeys g) {uuids : Uuids} {scn : SceneDocument R}
    {dev : UserDevice R}
    (hnew : scenes g scn.key = [] ∨ devices g (newDeviceKey uuids dev) = []) :
    UniqueKeys (db fn (linkQuery env uuids scn dev) g).2 := by
  obtain ⟨ts, hts, -⟩ := answer_register fn env (newDeviceKey uuids dev) scn.key
    (registeredTransform env.glm) dev.connectionString dev.hostname dev.port g
  exact hg.attach hts hnew

/-- Such a registration keeps the keys unique. -/
lemma UniqueKeys.register (hg : UniqueKeys g) {cfg : Config} {uuids : Uuids} {m : SceneList R}
    (hok : KeepsKeys g (.register cfg uuids m)) :
    UniqueKeys (serve fn env g (.register cfg uuids m)) := by
  by_cases hfields : ∀ scn ∈ m.scenes.head?, scn.devices = []
  · obtain ⟨errMsg, heq⟩ := processRegistrationMessage_refused env cfg uuids hfields
    rw [serve, Request.program, heq]
    exact hg
  · obtain ⟨scn, rest, dev, devs, hscn, hdev⟩ := exists_head_device hfields
    have hok' := hok scn (by rw [hscn]; rfl) dev (by rw [hdev]; rfl)
    rcases serve_register fn env hscn hdev cfg uuids g with
      h | ⟨hkey, hnone, h | ⟨hstorable, hnew, h⟩⟩ | ⟨hkey, hsome, hreg, h⟩
    · rw [h]
      exact hg
    · rw [h]
      exact hg.created ((hok' hkey).1 hnone)
    · rw [h]
      refine (hg.created ((hok' hkey).1 hnone)).link ?_
      have hcreated : CrazyIvan.created uuids.scene scn g
          = g.addNode "Scene" (sceneProps (newSceneKey uuids.scene scn) scn) :=
        if_pos ⟨hnew, hstorable⟩
      rw [hcreated, devices_addNode]
      by_cases hk : scn.key = ""
      · -- The scene gets a generated key, and the link finds nothing.
        have hne : newSceneKey uuids.scene scn ≠ scn.key := by rw [hk]; exact hnew
        left
        rw [scenes_addNode, sceneProps_key hnew, hnone]
        simp [hne]
      · exact Or.inr ((hok' hkey).2 (Or.inr ⟨hk, hstorable⟩) (registrationsTo_of_scenes hnone _))
    · rw [h]
      exact hg.link (Or.inr ((hok' hkey).2 (Or.inl hsome) hreg))

/-- Where every creation of a run meets no node with its key, keys are unique at
every point. -/
theorem uniqueKeys_of_along {rs : List (Request R)}
    (hrs : Along (serve fn env) KeepsKeys Graph.empty rs) :
    ∀ g ∈ rs.scanl (serve fn env) Graph.empty, UniqueKeys g := by
  refine forall_states_of_along (fun g r hg hok => ?_) UniqueKeys.empty hrs
  have hmaint : ∀ p : Db R (ProcessResult R), p.Asks (SentOtherwise env) →
      UniqueKeys (p.run (db fn) g).2 := fun p hp =>
    run_maintenance fn (fun _ _ h => UniqueKeys.maintenance fn env h) hp hg
  cases r with
  | create uuid m =>
      cases hm : m.scenes with
      | nil =>
          rw [serve, Request.program, processCreateMessage, hm]
          exact hg
      | cons scn rest =>
          obtain ⟨response, hrun, -⟩ := run_create fn hm uuid g
          rw [serve, Request.program, hrun]
          exact hg.created (hok scn (by rw [hm]; rfl))
  | register cfg uuids m => exact hg.register hok
  | update m => exact hmaint _ (asks_update m)
  | delete m => exact hmaint _ (asks_delete m)
  | align m => exact hmaint _ ((asks_align m).mono fun _ => .align)
  | deregister m => exact hmaint _ (asks_deregister m)

/-- A second scene with the device. -/
def otherScene : SceneDocument ℚ := { key := "s2", devices := [someDevice] }

lemma devices_otherScene : otherScene.devices = [someDevice] := rfl

/-- The graph once the device is registered to a new scene. -/
def afterRegistration (g : Graph ℚ) (scn : SceneDocument ℚ) : Graph ℚ :=
  (createAll (linkQuery plainEnv ⟨"", ""⟩ scn someDevice).params registerPattern
    ((scenes (created "" scn g) scn.key).map fun n => [("scn", .node n)]) (created "" scn g)).2

lemma serve_afterRegistration (g : Graph ℚ) {scn : SceneDocument ℚ}
    (hdev : scn.devices = [someDevice]) (hnone : scenes g scn.key = [])
    (hnew : newSceneKey "" scn ≠ "" ∧ Storable scn)
    (hregs : (readRegistrations plainEnv (.rows ((registrations (created "" scn g)
      someDevice.key).map fun t => [.node t.1, .rel t.2.1, .node t.2.2]))).isOk = true) :
    serve (fun _ x => x) plainEnv g (.register plainCfg ⟨"", ""⟩ { scenes := [scn] })
      = afterRegistration g scn := by
  rw [serve_register_new (fun _ x => x) plainEnv rfl hdev plainCfg newDeviceKey_someDevice hnone
    hnew hregs, linkQuery, db_register]
  rfl

/-- The device is registered to the scene, registered once more, deregistered, registered to the
scene that is left, and aligned. -/
def someRun : List (Request ℚ) :=
  [.register plainCfg ⟨"", ""⟩ someMsg, .register plainCfg ⟨"", ""⟩ someMsg, .deregister someMsg,
    .register plainCfg ⟨"", ""⟩ someMsg, .align someMsg]

/-- Where the scene is there, its registration makes no scene, and a device only if the device
is not registered. -/
lemma keepsKeys_someMsg {g : Graph ℚ} (hscene : scenes g someScene.key ≠ [])
    (hdev : registrationsTo g someScene.key (newDeviceKey ⟨"", ""⟩ someDevice) ≠ [] ∨
      devices g (newDeviceKey ⟨"", ""⟩ someDevice) = []) :
    KeepsKeys g (.register plainCfg ⟨"", ""⟩ someMsg) := by
  intro scn hscn dev hd _
  obtain rfl : someScene = scn := Option.some.inj hscn
  obtain rfl : someDevice = dev := Option.some.inj hd
  exact ⟨fun hnone => absurd hnone hscene, fun _ hfree => hdev.resolve_left (not_not.mpr hfree)⟩

/-- A run that meets the scene and the device again. -/
theorem uniqueKeys_of_along_someRun :
    Along (serve (fun _ x => x) plainEnv) KeepsKeys Graph.empty someRun ∧
      ∀ g ∈ someRun.scanl (serve (fun _ x => x) plainEnv) Graph.empty, UniqueKeys g := by
  have hfirst : serve (fun _ x => x) plainEnv Graph.empty (.register plainCfg ⟨"", ""⟩ someMsg)
      = afterRegistration Graph.empty someScene :=
    serve_afterRegistration Graph.empty devices_someScene rfl (by decide) (by decide)
  have hagain : serve (fun _ x => x) plainEnv (afterRegistration Graph.empty someScene)
      (.register plainCfg ⟨"", ""⟩ someMsg) = afterRegistration Graph.empty someScene :=
    serve_register_registered _ _ scenes_someMsg devices_someScene plainCfg (by decide)
  have hrun : Along (serve (fun _ x => x) plainEnv) KeepsKeys Graph.empty someRun := by
    refine ⟨fun _ _ _ _ _ => ⟨fun _ _ _ => rfl, fun _ _ => rfl⟩, ?_, trivial, ?_, trivial, trivial⟩
    · rw [hfirst]
      exact keepsKeys_someMsg (by decide) (.inl (by decide))
    · -- The scene is left, and no device has the key.
      rw [hfirst, hagain, serve_deregister _ _ scenes_someMsg devices_someScene]
      exact keepsKeys_someMsg (by decide) (.inr (by decide))
  exact ⟨hrun, uniqueKeys_of_along hrun⟩

/-- A device that registers to a second scene is stored twice. -/
theorem device_stored_twice :
    ¬ ∀ rs : List (Request ℚ), ∀ g ∈ rs.scanl (serve (fun _ x => x) plainEnv) Graph.empty,
      UniqueKeys g := by
  intro h
  have hlast := (h [.register plainCfg ⟨"", ""⟩ { scenes := [someScene] },
    .register plainCfg ⟨"", ""⟩ { scenes := [otherScene] }] _
    (List.mem_of_getLast? List.getLast?_scanl) "d").2
  rw [List.foldl_cons, List.foldl_cons, List.foldl_nil,
    serve_afterRegistration Graph.empty devices_someScene rfl (by decide) (by decide),
    serve_afterRegistration (afterRegistration Graph.empty someScene) devices_otherScene
      (by decide) (by decide) (by decide +kernel)] at hlast
  exact absurd hlast (by decide)

end Uniqueness

end CrazyIvan
