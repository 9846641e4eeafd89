import CrazyIvan.Cache.DeviceCache
import CrazyIvan.Network.Delivery

/-!
Loading the devices of the cached scenes from the database.

* `loadScene`, `loadScenes`: one query for each scene in the list of the cache.
* `deviceAddress`: the address a stored device has.
* `servedKeys`: the scenes of a pass whose queries return a result.
* `loadScenes_lists_iff`: after a pass the cache lists the devices of a scene
  exactly when its query returned some, or they were listed before.
-/

namespace CrazyIvan

open Cypher Resumption

variable {R : Type} (env : Env R)

def loadSceneQuery (sceneKey : String) : Query R where
  text := "MATCH (scn:Scene {key: {inp_key}})-[tr:TRANSFORM]->(ud:UserDevice) RETURN ud"
  params := [("inp_key", .str sceneKey)]

/-- The host name and the port of a device. -/
def readAddress (map : Props R) : Except Fail Address := do
  let connHost ← readElement env.getStringElement map "hostname" ""
  let connPort ← readElement env.getIntElement map "port" 0
  pure (connHost, connPort)

/-- The loop over the devices, up to the first row that is no node. -/
def readAddresses : List (List (Binding R)) → Except Fail (List Address)
  | [] => .ok []
  | (.node n :: _) :: rest => do
      let newDevice ← readAddress env n.props
      let newDevices ← readAddresses rest
      pure (newDevice :: newDevices)
  | (_ :: _) :: _ => .ok []
  | [] :: _ => .error .undefined

/-- No result, an exception included, is only logged; a list is stored when
something is in it. -/
def storeDevices (cache : DeviceCache) (sceneKey : String) : Answer R → Except Fail DeviceCache
  | .throw _ | .null => .ok cache
  | .rows rows => do
      let newDevices ← readAddresses env rows
      if newDevices.length > 0 then cache.setDevices sceneKey newDevices else pure cache

def loadScene (cache : DeviceCache) (sceneKey : String) : Db R DeviceCache :=
  askAndRead (loadSceneQuery sceneKey) (storeDevices env cache sceneKey)

/-- Re-load all scenes currently in the cache. -/
def loadScenes (cache : DeviceCache) : Db R DeviceCache :=
  cache.sceneList.foldlM (loadScene env) cache

/-! ### One scene -/

/-- The address a device has, if its properties are of the types that are
stored. -/
def deviceAddress (map : Props R) : Option Address :=
  match map "hostname", map "port" with
  | none, none => some ("", 0)
  | some (.str host), none => some (host, 0)
  | none, some (.int port) => some ("", port)
  | some (.str host), some (.int port) => some (host, port)
  | _, _ => none

lemma readAddress_eq (map : Props R) :
    (readAddress env map).toOption = deviceAddress map := by
  rw [readAddress, deviceAddress, readElement, readElement]
  rcases map "hostname" with _ | _ | _ | _ | _ | _ <;>
    rcases map "port" with _ | _ | _ | _ | _ | _ <;> rfl

lemma readAddresses_nodes (ns : List (Node R)) :
    readAddresses env (ns.map fun n => [.node n]) = ns.mapM fun n => readAddress env n.props := by
  induction ns with
  | nil => rfl
  | cons n ns ih =>
      rw [List.map_cons, List.mapM_cons, readAddresses, ih]

lemma toOption_bind {α β : Type} (x : Except Fail α) (f : α → Except Fail β) :
    (x >>= f).toOption = x.toOption.bind fun a => (f a).toOption := by
  cases x <;> rfl

/-- The addresses of nodes are those of their properties, in the same order. -/
lemma mapM_readAddress (ns : List (Node R)) :
    (ns.mapM fun n => readAddress env n.props).toOption =
      ns.mapM fun n => deviceAddress n.props := by
  induction ns with
  | nil => rfl
  | cons n ns ih =>
      rw [List.mapM_cons, List.mapM_cons, ← ih, ← readAddress_eq env, toOption_bind]
      simp only [toOption_bind]
      rfl

section Pass

variable [LinearOrder R]

/-- The addresses of the devices registered to the scenes with a key, once for
each registration. -/
def registeredAddresses (g : Graph R) (k : String) : Option (List Address) :=
  (devicesOf g k).mapM fun n => deviceAddress n.props

lemma registeredAddresses_isSome_iff {g : Graph R} {k : String} :
    (registeredAddresses g k).isSome ↔
      ∀ n ∈ devicesOf g k, (deviceAddress n.props).isSome := by
  rw [registeredAddresses]
  induction devicesOf g k with
  | nil => simp
  | cons n ns ih =>
      rw [List.mapM_cons, List.forall_mem_cons, ← ih]
      cases deviceAddress n.props with
      | none => simp
      | some a => cases List.mapM (fun n : Node R => deviceAddress n.props) ns <;> simp

lemma registeredAddresses_eq_nil_iff {g : Graph R} {k : String} :
    registeredAddresses g k = some [] ↔ devicesOf g k = [] := by
  rw [registeredAddresses]
  cases devicesOf g k with
  | nil => simp
  | cons n ns =>
      rw [List.mapM_cons]
      cases deviceAddress n.props with
      | none => simp
      | some a => cases List.mapM (fun n : Node R => deviceAddress n.props) ns <;> simp

/-- The rows the query of a scene is answered with. -/
def deviceRows (g : Graph R) (k : String) : Answer R :=
  .rows ((devicesOf g k).map fun n => [.node n])

/-- Storing the devices of a scene that is held: the list is replaced where
there are some. -/
lemma storeDevices_deviceRows {c : DeviceCache} (h : c.Sound) {k : String}
    (hk : k ∈ c.sceneList) (g : Graph R) :
    match registeredAddresses g k with
    | none => ∃ e, storeDevices env c k (deviceRows g k) = .error e
    | some [] => storeDevices env c k (deviceRows g k) = .ok c
    | some l => ∃ c', storeDevices env c k (deviceRows g k) = .ok c' ∧ c'.Sound ∧
        c'.sceneList = c.sceneList ∧ c'.devices = Function.update c.devices k (some l) := by
  have hread : (readAddresses env ((devicesOf g k).map fun n => [.node n])).toOption =
      registeredAddresses g k := by
    rw [readAddresses_nodes, mapM_readAddress, registeredAddresses]
  rw [deviceRows, storeDevices]
  rcases hrows : readAddresses env ((devicesOf g k).map fun n => [.node n]) with e | l
  · rw [hrows] at hread
    rw [← hread]
    exact ⟨e, rfl⟩
  · rw [hrows] at hread
    rw [← hread]
    cases l with
    | nil => rfl
    | cons a l =>
        obtain ⟨c', -, -, hset, hsound, hlist, -, -, -, hdev⟩ := h.setDevices_of_mem hk (a :: l)
        exact ⟨c', hset, hsound, hlist, hdev⟩

/-- The pass over a list of keys. -/
lemma foldlM_storeDevices (g : Graph R) {keys : List String} {c : DeviceCache} (h : c.Sound)
    (hkeys : keys ⊆ c.sceneList) :
    ((∃ c', keys.foldlM (fun c k => storeDevices env c k (deviceRows g k)) c = .ok c') ↔
      ∀ k ∈ keys, (registeredAddresses g k).isSome) ∧
    ∀ c', keys.foldlM (fun c k => storeDevices env c k (deviceRows g k)) c = .ok c' →
      ∀ s, c'.devices s = if s ∈ keys ∧ registeredAddresses g s ≠ some []
        then registeredAddresses g s else c.devices s := by
  induction keys generalizing c with
  | nil =>
      refine ⟨⟨fun _ => by simp, fun _ => ⟨c, rfl⟩⟩, fun c' hc' s => ?_⟩
      cases hc'
      simp
  | cons k keys ih =>
      obtain ⟨hk, hkeys'⟩ := List.cons_subset.mp hkeys
      have hstore := storeDevices_deviceRows env h hk g
      rw [List.foldlM_cons]
      rcases haddr : registeredAddresses g k with _ | _ | ⟨a, l⟩
      · -- The devices of the scene cannot be read, and the pass ends.
        obtain ⟨e, he⟩ : ∃ e, storeDevices env c k (deviceRows g k) = .error e := by
          simpa [haddr] using hstore
        have herr : ∀ c', (storeDevices env c k (deviceRows g k) >>= fun c =>
            keys.foldlM (fun c k => storeDevices env c k (deviceRows g k)) c) ≠ .ok c' := by
          intro c'
          rw [he]
          exact fun h => by cases h
        refine ⟨⟨fun ⟨c', hc'⟩ => absurd hc' (herr c'), fun hall => ?_⟩,
          fun c' hc' => absurd hc' (herr c')⟩
        simpa [haddr] using hall k List.mem_cons_self
      · -- The scene has none, and its list is kept.
        have hkeep : storeDevices env c k (deviceRows g k) = .ok c := by
          simpa [haddr] using hstore
        obtain ⟨hok, hdev⟩ := ih h hkeys'
        rw [hkeep]
        refine ⟨hok.trans ?_, fun c' hc' s => ?_⟩
        · simp [haddr]
        · rw [hdev c' hc' s]
          refine if_congr ?_ rfl rfl
          rw [List.mem_cons]
          constructor
          · exact fun hs => ⟨.inr hs.1, hs.2⟩
          · rintro ⟨rfl | hs, hne⟩
            · exact absurd haddr hne
            · exact ⟨hs, hne⟩
      · -- Its list is replaced, and the scene may come again.
        obtain ⟨c₁, hset, hsound, hlist, hdev₁⟩ : ∃ c', storeDevices env c k (deviceRows g k) =
            .ok c' ∧ c'.Sound ∧ c'.sceneList = c.sceneList ∧
            c'.devices = Function.update c.devices k (some (a :: l)) := by
          simpa [haddr] using hstore
        obtain ⟨hok, hdev⟩ := ih hsound (hlist.symm ▸ hkeys')
        rw [hset]
        refine ⟨hok.trans ?_, fun c' hc' s => ?_⟩
        · simp [haddr]
        · rw [hdev c' hc' s, hdev₁]
          by_cases hs : s = k
          · subst hs
            simp [haddr]
          · rw [Function.update_of_ne hs]
            simp [hs]

end Pass

variable [Field R] [LinearOrder R] (fn : String → R → R)

/-- The scenes of a pass whose queries return a result, by the outcomes of the queries. -/
def servedKeys : List Outcome → List String → List String
  | _, [] => []
  | os, k :: keys =>
      if os.headD .served = .served then k :: servedKeys os.tail keys else servedKeys os.tail keys

lemma servedKeys_subset (os : List Outcome) (keys : List String) : servedKeys os keys ⊆ keys := by
  induction keys generalizing os with
  | nil => exact List.Subset.refl _
  | cons k keys ih =>
      rw [servedKeys]
      split
      · exact List.cons_subset_cons k (ih os.tail)
      · exact fun s hs => List.mem_cons_of_mem k (ih os.tail hs)

/-- One scene: nothing is stored where the query returns no result. -/
lemma run_loadScene (cache : DeviceCache) (k : String) (os : List Outcome) (g : Graph R) :
    (loadScene env cache k).run (faulty fn) (os, g) =
      (if os.headD .served = .served then storeDevices env cache k (deviceRows g k) else .ok cache,
        (os.tail, g)) := by
  have hquery : loadSceneQuery (R := R) k = isUdRegisteredQuery k := rfl
  rw [loadScene, run_askAndRead, hquery, faulty_isUdRegistered]
  cases os.headD .served <;> rfl

/-- A pass asks one query for each key and changes nothing in the database. -/
lemma run_foldlM_loadScene (keys : List String) (c : DeviceCache) (os : List Outcome)
    (g : Graph R) :
    ((keys.foldlM (loadScene env) c).run (faulty fn) (os, g)).1 =
      (servedKeys os keys).foldlM (fun c k => storeDevices env c k (deviceRows g k)) c := by
  induction keys generalizing c os with
  | nil => rfl
  | cons k keys ih =>
      rw [List.foldlM_cons, Prog.run_bind, run_loadScene, servedKeys]
      split_ifs
      · rw [List.foldlM_cons]
        rcases storeDevices env c k (deviceRows g k) with e | c'
        · rfl
        · exact ih c' os.tail
      · exact ih c os.tail

/-- The cache lists the devices that are registered to a scene, each once for each
registration. -/
def ListsRegistered (c : DeviceCache) (g : Graph R) (s : String) : Prop :=
  ∃ l l', c.getDevices s = .ok l ∧ registeredAddresses g s = some l' ∧ l.Perm l'

omit [Field R] in
lemma listsRegistered_iff (c : DeviceCache) (g : Graph R) (s : String) :
    ListsRegistered c g s ↔
      ∃ l l', c.devices s = some l ∧ registeredAddresses g s = some l' ∧ l.Perm l' := by
  have hget : ∀ l, c.getDevices s = .ok l ↔ c.devices s = some l := fun l => by
    rw [DeviceCache.devices]
    cases c.getDevices s <;> simp [Except.toOption]
  simp only [ListsRegistered, hget]

/-- A pass ends when the addresses that are stored can be read. The cache then lists the
devices of a scene exactly when the query of the scene returned some, or they were listed
before. -/
theorem loadScenes_lists_iff (os : List Outcome) (g : Graph R) {c : DeviceCache} (h : c.Sound) :
    let result := ((loadScenes env c).run (faulty fn) (os, g)).1
    ((∃ c', result = .ok c') ↔ ∀ s ∈ servedKeys os c.sceneList, ∀ n ∈ devicesOf g s,
        (deviceAddress n.props).isSome) ∧
      ∀ c', result = .ok c' → ∀ s ∈ c.sceneList,
        (ListsRegistered c' g s ↔
          s ∈ servedKeys os c.sceneList ∧ devicesOf g s ≠ [] ∨ ListsRegistered c g s) := by
  intro result
  have hrun : result = (servedKeys os c.sceneList).foldlM
      (fun c k => storeDevices env c k (deviceRows g k)) c := run_foldlM_loadScene env fn _ c os g
  obtain ⟨hok, hdev⟩ := foldlM_storeDevices env g h (servedKeys_subset os c.sceneList)
  rw [hrun, hok]
  refine ⟨forall₂_congr fun s _ => registeredAddresses_isSome_iff, fun c' hc' s hs => ?_⟩
  have hs' := hdev c' hc' s
  rw [listsRegistered_iff, listsRegistered_iff, hs']
  by_cases hmem : s ∈ servedKeys os c.sceneList
  · obtain ⟨l, hl⟩ := Option.isSome_iff_exists.mp (hok.mp ⟨c', hc'⟩ s hmem)
    by_cases hnil : devicesOf g s = []
    · have hempty := registeredAddresses_eq_nil_iff.mpr hnil
      simp [hempty, hnil]
    · have hne : registeredAddresses g s ≠ some [] :=
        fun hempty => hnil (registeredAddresses_eq_nil_iff.mp hempty)
      rw [if_pos ⟨hmem, hne⟩]
      exact iff_of_true ⟨l, l, hl, hl, List.Perm.refl l⟩ (.inl ⟨hmem, hnil⟩)
  · simp [hmem]

/-! ### A scene whose last device leaves, and a query without a result -/

/-- A cache that lists one device of the scene. -/
def oneListed : DeviceCache :=
  { ({} : DeviceCache).addScene "s" with
    heap := [some (({} : DeviceCacheEntry).setAddresses [("localhost", 5000)])] }

lemma setDevices_oneListed :
    (({} : DeviceCache).addScene "s").setDevices "s" [("localhost", 5000)] = .ok oneListed := rfl

lemma sound_oneListed : oneListed.Sound := by
  have h := DeviceCache.wellFormed_empty.wellFormed_addScene (k := "s") (by simp)
  obtain ⟨c, -, -, hset, hsound, -⟩ := h.sound.setDevices_of_mem (k := "s")
    (by simp [DeviceCache.addScene]) [("localhost", 5000)]
  rw [setDevices_oneListed] at hset
  exact Except.ok.inj hset ▸ hsound

/-- The scene on its own. -/
def deserted : Graph ℚ :=
  Graph.empty.addNode "Scene" fun k => if k = "key" then some (.str "s") else none

/-- The scene with a device. -/
def attended : Graph ℚ :=
  (deserted.addNode "UserDevice" fun k => if k = "hostname" then some (.str "127.0.0.1") else
    if k = "port" then some (.int 4000) else none).addRel "TRANSFORM" 0 1 fun _ => none

/-- While a device is registered the list is renewed. -/
theorem loadScenes_lists_attended :
    ∃ c', ((loadScenes plainEnv oneListed).run (faulty fun _ x => x) ([], attended)).1 = .ok c' ∧
      ListsRegistered c' attended "s" := by
  obtain ⟨hok, hlists⟩ := loadScenes_lists_iff plainEnv (fun _ x => x) [] attended sound_oneListed
  obtain ⟨c', hc'⟩ := hok.mpr (by decide)
  exact ⟨c', hc', (hlists c' hc' "s" (by decide)).mpr (.inl (by decide))⟩

/-- Once it has left, the list stays as it was, and so it does where the query returns no
result. -/
theorem listed_deserted :
    ((loadScenes plainEnv oneListed).run (faulty fun _ x => x) ([], deserted)).1 = .ok oneListed ∧
      registeredAddresses deserted "s" = some [] ∧
      ((loadScenes plainEnv oneListed).run (faulty fun _ x => x) ([.null true], attended)).1
        = .ok oneListed ∧
      registeredAddresses attended "s" = some [("127.0.0.1", 4000)] ∧
      oneListed.getDevices "s" = .ok [("localhost", 5000)] := by
  refine ⟨?_, by decide, ?_, by decide, rfl⟩
  · rw [loadScenes, run_foldlM_loadScene]
    rfl
  · rw [loadScenes, run_foldlM_loadScene]
    rfl

end CrazyIvan
