import CrazyIvan.Network.Effects
import CrazyIvan.Query.SceneUpdates

/-!
The types of the stored values.

* `StoredTypes`, `StoresNumbers`, `Typed`: properties of the types that they are read as.
* `typed_sceneProps`, `typed_updateProps`, `typed_linkProps`: those that are written
  are.
* `assignSceneProperties_ok_iff`, `StoresNumbers.exists_edgeValues`: they can be read.
* `WellTyped`: a graph with such properties; `WellTyped.serveAll`: every run keeps it.
-/

namespace CrazyIvan

open Cypher Resumption

section Types

variable {R : Type}

/-- The properties of a scene have the types that they are stored with. -/
structure StoredTypes (ps : Props R) : Prop where
  text : ∀ k ∈ ["key", "name", "region", "description", "user", "thumbnail"],
    ∀ v ∈ ps k, ∃ s, v = .str s
  coordinate : ∀ k ∈ ["latitude", "longitude"], ∀ v ∈ ps k, ∃ x, v = .num x
  active : ∀ v ∈ ps "active", ∃ b, v = .bool b
  list : ∀ k ∈ ["assets", "tags"], ∀ v ∈ ps k, ∃ l, v = .strs l

/-- The properties of a transform, as far as they are stored, are numbers. -/
def StoresNumbers (map : Props R) : Prop :=
  ∀ name ∈ transformEntries.map Prod.fst, ∀ v, map name = some v → ∃ x, v = .num x

/-- Properties of the types the program stores, of scenes and of transforms. -/
structure Typed (ps : Props R) : Prop where
  scene : StoredTypes ps
  transform : StoresNumbers ps

/-- A value of the type that is read under a name. -/
def Suits (name : String) (v : Value R) : Prop :=
  (name ∈ ["key", "name", "region", "description", "user", "thumbnail"] → ∃ s, v = .str s) ∧
  (name ∈ ["latitude", "longitude", "translation_x", "translation_y", "translation_z",
    "rotation_x", "rotation_y", "rotation_z"] → ∃ x, v = .num x) ∧
  (name = "active" → ∃ b, v = .bool b) ∧
  (name ∈ ["assets", "tags"] → ∃ l, v = .strs l)

lemma typed_iff {ps : Props R} : Typed ps ↔ ∀ name v, ps name = some v → Suits name v := by
  constructor
  · intro h name v hv
    refine ⟨fun hname => h.scene.text name hname v hv, fun hname => ?_,
      fun hname => h.scene.active v (hname ▸ hv), fun hname => h.scene.list name hname v hv⟩
    -- A number is a coordinate or stands on an edge.
    rcases List.mem_append.mp (show name ∈ ["latitude", "longitude"] ++
      transformEntries.map Prod.fst from hname) with hname | hname
    · exact h.scene.coordinate name hname v hv
    · exact h.transform name hname v hv
  · intro h
    refine ⟨⟨fun name hname v hv => (h name v hv).1 hname, fun name hname v hv =>
      (h name v hv).2.1 (List.mem_append_left (transformEntries.map Prod.fst) hname),
      fun v hv => (h _ v hv).2.2.1 rfl, fun name hname v hv => (h name v hv).2.2.2 hname⟩, ?_⟩
    exact fun name hname v hv =>
      (h name v hv).2.1 (List.mem_append_right ["latitude", "longitude"] hname)

/-! ### Reading -/

section Reading

variable {ps : Props R} (env : Env R)

lemma readElement_ok_iff {α : Type} {get : Value R → Except Fail α} {map : Props R}
    {name : String} {current : α} :
    (∃ x, readElement get map name current = .ok x) ↔ ∀ v ∈ map name, ∃ x, get v = .ok x := by
  rw [readElement]
  cases map name <;> simp

/-- A stored list. -/
lemma StoredTypes.exists_storedList (h : StoredTypes ps) {name : String}
    (hname : name ∈ ["assets", "tags"]) : ∃ l, StoredList (ps name) l := by
  cases hv : ps name with
  | none => exact ⟨[], .inr ⟨rfl, rfl⟩⟩
  | some v =>
      obtain ⟨l, rfl⟩ := h.list name hname v hv
      exact ⟨l, .inl rfl⟩

lemma StoresNumbers.exists_readElement (h : StoresNumbers ps) (name : String)
    (hname : name ∈ transformEntries.map Prod.fst) (current : R) :
    ∃ x, readElement env.getFloatElement ps name current = .ok x :=
  readElement_ok_iff.mpr fun v hv => by
    obtain ⟨x, rfl⟩ := h name hname v hv
    exact ⟨x, rfl⟩

variable [CommRing R]

/-- A scene can be read exactly if its properties have their types. -/
lemma assignSceneProperties_ok_iff (data : SceneDocument R) :
    (∃ d, assignSceneProperties env ps data = .ok d) ↔ StoredTypes ps := by
  have hbind : ∀ {α β : Type} (x : Except Fail α) (f : α → Except Fail β),
      (∃ d, x >>= f = .ok d) ↔ ∃ a, x = .ok a ∧ ∃ d, f a = .ok d := by
    intro α β x f
    cases x <;> simp [bind, Except.bind]
  have hstr : ∀ v : Value R, (∃ s, env.getStringElement v = .ok s) ↔ ∃ s, v = .str s := fun v => by
    cases v <;> simp [Env.getStringElement]
  have hnum : ∀ v : Value R, (∃ x, env.getFloatElement v = .ok x) ↔ ∃ x, v = .num x := fun v => by
    cases v <;> simp [Env.getFloatElement]
  have hbool : ∀ v : Value R, (∃ b, env.getBoolElement v = .ok b) ↔ ∃ b, v = .bool b := fun v => by
    cases v <;> simp [Env.getBoolElement]
  have hlist : ∀ v : Value R, (∃ l, env.getListElement v = .ok l) ↔ ∃ l, v = .strs l := fun v => by
    cases v <;> simp [Env.getListElement]
  rw [assignSceneProperties]
  simp only [hbind, exists_and_right, readElement_ok_iff, hstr, hnum, hbool,
    hlist, pure, Except.pure, Except.ok.injEq, exists_eq', and_true]
  constructor
  · rintro ⟨hkey, hname, hregion, hdescription, huser, hthumbnail, hlat, hactive, hlong, hassets,
      htags⟩
    constructor
    · simp only [List.forall_mem_cons]
      exact ⟨hkey, hname, hregion, hdescription, huser, hthumbnail, by simp⟩
    · simp only [List.forall_mem_cons]
      exact ⟨hlat, hlong, by simp⟩
    · exact hactive
    · simp only [List.forall_mem_cons]
      exact ⟨hassets, htags, by simp⟩
  · intro h
    obtain ⟨hkey, hname, hregion, hdescription, huser, hthumbnail, -⟩ := by
      simpa only [List.forall_mem_cons] using h.text
    obtain ⟨hlat, hlong, -⟩ := by simpa only [List.forall_mem_cons] using h.coordinate
    obtain ⟨hassets, htags, -⟩ := by simpa only [List.forall_mem_cons] using h.list
    exact ⟨hkey, hname, hregion, hdescription, huser, hthumbnail, hlat, h.active, hlong, hassets,
      htags⟩

/-- The key is the first property that is read, and the devices are left alone. -/
lemma readElement_key_of_assignSceneProperties {data scn : SceneDocument R}
    (h : assignSceneProperties env ps data = .ok scn) :
    readElement env.getStringElement ps "key" data.key = .ok scn.key ∧
      scn.devices = data.devices := by
  rw [assignSceneProperties] at h
  obtain ⟨key, hkey, h⟩ := exists_of_bind_ok h
  obtain ⟨name, -, h⟩ := exists_of_bind_ok h
  obtain ⟨region, -, h⟩ := exists_of_bind_ok h
  obtain ⟨description, -, h⟩ := exists_of_bind_ok h
  obtain ⟨user, -, h⟩ := exists_of_bind_ok h
  obtain ⟨thumbnail, -, h⟩ := exists_of_bind_ok h
  obtain ⟨latitude, -, h⟩ := exists_of_bind_ok h
  obtain ⟨active, -, h⟩ := exists_of_bind_ok h
  obtain ⟨longitude, -, h⟩ := exists_of_bind_ok h
  obtain ⟨assets, -, h⟩ := exists_of_bind_ok h
  obtain ⟨tags, -, h⟩ := exists_of_bind_ok h
  cases h
  exact ⟨hkey, rfl⟩

/-- A scene is read, with the stored key and without devices. -/
lemma StoredTypes.exists_assignSceneProperties (h : StoredTypes ps) :
    ∃ scn, assignSceneProperties env ps {} = .ok scn ∧
      readElement env.getStringElement ps "key" "" = .ok scn.key ∧ scn.devices = [] := by
  obtain ⟨scn, hscn⟩ := (assignSceneProperties_ok_iff env {}).mpr h
  exact ⟨scn, hscn, readElement_key_of_assignSceneProperties env hscn⟩

/-- The values of an edge are read. -/
lemma StoresNumbers.exists_edgeValues {r : Rel R} (h : StoresNumbers r.props) :
    ∃ values, edgeValues env (.rel r) = .ok values := by
  obtain ⟨tx, htx⟩ := h.exists_readElement env "translation_x" (by decide) (-999)
  obtain ⟨ty, hty⟩ := h.exists_readElement env "translation_y" (by decide) (-999)
  obtain ⟨tz, htz⟩ := h.exists_readElement env "translation_z" (by decide) (-999)
  obtain ⟨rx, hrx⟩ := h.exists_readElement env "rotation_x" (by decide) (-999)
  obtain ⟨ry, hry⟩ := h.exists_readElement env "rotation_y" (by decide) (-999)
  obtain ⟨rz, hrz⟩ := h.exists_readElement env "rotation_z" (by decide) (-999)
  refine ⟨(![tx, ty, tz], ![rx, ry, rz]), ?_⟩
  rw [edgeValues]
  simp only [htx, hty, htz, hrx, hry, hrz]
  rfl

end Reading

/-! ### Transforms and devices -/

lemma typed_deviceProps (dk conn host : String) (port : ℤ) :
    Typed (deviceProps dk conn host port : Props R) := by
  refine typed_iff.mpr fun name v h => ?_
  obtain ⟨p, hentry, hv⟩ := exists_entry_of_mkProps _ h
  simp only [deviceEntries, List.mem_cons, Prod.mk.injEq, List.not_mem_nil, or_false] at hentry
  rcases hentry with ⟨rfl, rfl⟩ | ⟨rfl, rfl⟩ | ⟨rfl, rfl⟩ | ⟨rfl, rfl⟩ <;> cases hv <;> simp [Suits]

section Transforms

variable [CommRing R] (glm : Glm R) (t : Transform R)

/-- What the stored transforms are. -/
lemma suits_linkProps {name : String} {v : Value R}
    (h : linkProps glm t name = some v) : Suits name v := by
  obtain ⟨p, hentry, hv⟩ := exists_entry_of_mkProps _ h
  simp only [transformEntries, List.mem_cons, Prod.mk.injEq, List.not_mem_nil, or_false] at hentry
  rcases hentry with ⟨rfl, rfl⟩ | ⟨rfl, rfl⟩ | ⟨rfl, rfl⟩ | ⟨rfl, rfl⟩ | ⟨rfl, rfl⟩ | ⟨rfl, rfl⟩ <;>
    cases hv <;> simp [Suits]

lemma typed_linkProps : Typed (linkProps glm t) :=
  typed_iff.mpr fun _ _ => suits_linkProps glm t

lemma typed_storeTransform {ps : Props R} (hps : Typed ps) :
    Typed (storeTransform glm t ps) := by
  refine typed_iff.mpr fun name v h => ?_
  rcases Option.or_eq_some_iff.mp h with h | ⟨-, h⟩
  · exact suits_linkProps glm t h
  · exact typed_iff.mp hps name v h

end Transforms

/-! ### Scenes -/

section Scenes

variable [Field R] [LinearOrder R]

/-- The values a scene can be created with. -/
def storedValues (newId : String) (scn : SceneDocument R) : List (String × Value R) :=
  [("key", .str newId), ("public", .bool scn.isPublic), ("active", .bool scn.active),
    ("name", .str scn.name), ("latitude", .num scn.latitude), ("longitude", .num scn.longitude),
    ("region", .str scn.region), ("description", .str scn.description), ("user", .str scn.user),
    ("thumbnail", .str scn.thumbnail), ("assets", .strs scn.assets), ("tags", .strs scn.tags)]

/-- The properties of a scene, with the parameters that they are sent in. -/
def sceneEntries : List (String × String) :=
  [("key", "inp_key"), ("public", "inp_public"), ("active", "inp_active"), ("name", "inp_name"),
    ("latitude", "inp_lat"), ("longitude", "inp_long"), ("region", "inp_region"),
    ("description", "inp_description"), ("user", "inp_user"), ("thumbnail", "inp_thumbnail"),
    ("assets", "inp_assets"), ("tags", "inp_tags")]

/-- Every property has a parameter of its own, and that has one value. -/
lemma mem_storedValues_of_lookup {key name p : String} {crudOp : CrudOp} {scn : SceneDocument R}
    {v : Value R} (hentry : (name, p) ∈ sceneEntries)
    (hparam : (generateSceneQueryParameters key crudOp (some scn)).lookup p = some v) :
    (name, v) ∈ storedValues key scn := by
  have hmem := mem_of_lookup hparam
  clear hparam
  simp only [sceneEntries, List.mem_cons, Prod.mk.injEq, List.not_mem_nil, or_false] at hentry
  simp only [generateSceneQueryParameters, generateQueryParameters, List.mem_append,
    List.mem_cons, List.not_mem_nil, or_false, optParam, List.mem_ite_nil_right,
    Prod.mk.injEq] at hmem
  rcases hentry with ⟨rfl, rfl⟩ | ⟨rfl, rfl⟩ | ⟨rfl, rfl⟩ | ⟨rfl, rfl⟩ | ⟨rfl, rfl⟩ |
    ⟨rfl, rfl⟩ | ⟨rfl, rfl⟩ | ⟨rfl, rfl⟩ | ⟨rfl, rfl⟩ | ⟨rfl, rfl⟩ | ⟨rfl, rfl⟩ | ⟨rfl, rfl⟩
  all_goals
    simp only [String.reduceEq, false_and, and_false, or_false, false_or, true_and] at hmem
    simp [storedValues, hmem]

omit [LinearOrder R] in
lemma suits_storedValues {key name : String} {scn : SceneDocument R} {v : Value R}
    (h : (name, v) ∈ storedValues key scn) : Suits name v := by
  simp only [storedValues, List.mem_cons, Prod.mk.injEq, List.not_mem_nil, or_false] at h
  rcases h with ⟨rfl, rfl⟩ | ⟨rfl, rfl⟩ | ⟨rfl, rfl⟩ | ⟨rfl, rfl⟩ | ⟨rfl, rfl⟩ | ⟨rfl, rfl⟩ |
    ⟨rfl, rfl⟩ | ⟨rfl, rfl⟩ | ⟨rfl, rfl⟩ | ⟨rfl, rfl⟩ | ⟨rfl, rfl⟩ | ⟨rfl, rfl⟩ <;> simp [Suits]

/-- What a scene is created with. -/
lemma typed_sceneProps (newId : String) (scn : SceneDocument R) :
    Typed (sceneProps newId scn) := by
  refine typed_iff.mpr fun name v h => ?_
  obtain ⟨p, hentry, hv⟩ := exists_entry_of_mkProps _ h
  simp only [createEntries, List.mem_cons, List.mem_append, mem_optEntry,
    List.not_mem_nil, or_false] at hentry
  refine suits_storedValues (mem_storedValues_of_lookup ?_ hv)
  simp only [sceneEntries, List.mem_cons]
  tauto

variable (fn : String → R → R) (opType : ℤ) (scn : SceneDocument R)

/-- The assignments to flags and plain properties are from the parameters of these. -/
lemma entry_of_mem_plainAssignments {it : SetItem} (hit : it ∈ plainAssignments scn) :
    ∃ p, it.value = .param p ∧ (it.prop, p) ∈ sceneEntries := by
  simp only [plainAssignments, plainItems, List.mem_cons, List.mem_map, List.mem_append,
    mem_optEntry] at hit
  rcases hit with rfl | rfl | ⟨i, (((((⟨-, rfl⟩ | ⟨-, rfl⟩) | ⟨-, rfl⟩) | ⟨-, rfl⟩) | ⟨-, rfl⟩) |
    ⟨-, rfl⟩) | ⟨-, rfl⟩, rfl⟩
  all_goals exact ⟨_, rfl, by decide⟩

lemma typed_assign_plain {ps : Props R} (hps : Typed ps) :
    Typed (assign (updateVal fn (updateSceneQuery opType scn).params) (plainAssignments scn)
      ps) := by
  refine assign_invariant (fun it hit ps hps => typed_iff.mpr fun name v h => ?_) hps
  by_cases hname : name = it.prop
  · subst hname
    obtain ⟨p, hp, hentry⟩ := entry_of_mem_plainAssignments scn hit
    rw [Function.update_self, updateVal, hp] at h
    exact suits_storedValues (mem_storedValues_of_lookup hentry h)
  · rw [Function.update_of_ne hname] at h
    exact typed_iff.mp hps name v h

/-- A list is assigned a list, if it is assigned. -/
lemma exists_storedList_updateProps {ps : Props R} {name : String}
    (hname : name ∈ ["assets", "tags"]) {l : List String} (hl : StoredList (ps name) l) :
    ∃ l', StoredList (updateProps fn opType scn ps name) l' := by
  have hafter : ∃ given, ListAfter opType given l (updateProps fn opType scn ps name) := by
    rcases List.mem_pair.mp hname with rfl | rfl
    · exact ⟨_, listAfter_updateProps_assets fn opType scn hl⟩
    · exact ⟨_, listAfter_updateProps_tags fn opType scn hl⟩
  obtain ⟨given, hafter⟩ := hafter
  by_cases happend : opType = opAppend
  · exact ⟨_, hafter.appended happend⟩
  by_cases hremove : opType = opRemove
  · exact ⟨_, hafter.removed hremove⟩
  -- Another operation assigns no list.
  have hnone : ∀ (c : Prop) [Decidable c] (a prop p : String),
      (if c then listItem opType a prop p else []) = [] := by
    intro c _ a prop p
    rw [listItem, if_neg happend, optEntry, if_neg hremove, ite_self]
  refine ⟨l, ?_⟩
  rw [updateProps_eq, hnone, hnone]
  show StoredList (assign _ (plainAssignments scn) ps name) l
  rwa [assign_plain_list fn hname]

/-- What a scene is updated to. -/
lemma typed_updateProps {ps : Props R} (hps : Typed ps) :
    Typed (updateProps fn opType scn ps) := by
  refine typed_iff.mpr fun name v h => ?_
  by_cases hname : name ∈ ["assets", "tags"]
  · obtain ⟨l, hl⟩ := hps.scene.exists_storedList hname
    obtain ⟨l', hl'⟩ := exists_storedList_updateProps fn opType scn hname hl
    rw [h] at hl'
    obtain rfl : v = .strs l' := Option.some.inj (hl'.resolve_right (by simp))
    rcases List.mem_pair.mp hname with rfl | rfl <;> simp [Suits]
  · rw [List.mem_pair, not_or] at hname
    rw [updateProps_of_not_list fn hname.1 hname.2] at h
    exact typed_iff.mp (typed_assign_plain fn opType scn hps) name v h

end Scenes

/-! ### Graphs -/

section Graphs

/-- The properties of the nodes and the relationships have the types that they are read
as. -/
structure WellTyped (g : Graph R) : Prop where
  node : ∀ n ∈ g.nodes, Typed n.props
  rel : ∀ t ∈ g.triples, Typed t.2.1.props

namespace WellTyped

variable {g g' : Graph R}

lemma empty : WellTyped (Graph.empty : Graph R) where
  node _ hn := nomatch hn
  rel _ ht := nomatch ht

lemma addNode (h : WellTyped g) {ps : Props R} (hps : Typed ps) (label : String) :
    WellTyped (g.addNode label ps) where
  node n hn := by
    rw [Graph.nodes_addNode] at hn
    rcases List.mem_append.mp hn with hn | hn
    · exact h.node n hn
    · rw [List.mem_singleton.mp hn]
      exact hps
  rel t ht := h.rel t (by rwa [Graph.triples_addNode] at ht)

lemma mapNodes (h : WellTyped g) {f : Node R → Props R}
    (hf : ∀ n ∈ g.nodes, Typed (f n)) : WellTyped (g.mapNodes f) where
  node n hn := by
    obtain ⟨m, hm, rfl⟩ := List.mem_map.mp hn
    exact hf m hm
  rel t ht := by
    rw [Graph.triples_mapNodes] at ht
    obtain ⟨u, hu, rfl⟩ := List.mem_map.mp ht
    exact h.rel u hu

lemma mapRels (h : WellTyped g) {f : Rel R → Props R}
    (hf : ∀ t ∈ g.triples, Typed (f t.2.1)) : WellTyped (g.mapRels f) where
  node := h.node
  rel t ht := by
    rw [Graph.triples_mapRels] at ht
    obtain ⟨u, hu, rfl⟩ := List.mem_map.mp ht
    exact hf u hu

lemma detachDelete (h : WellTyped g) (ids : List ℕ) : WellTyped (g.detachDelete ids) where
  node n hn := h.node n (List.mem_of_mem_filter hn)
  rel t ht := by
    rw [Graph.triples_detachDelete] at ht
    exact h.rel t (List.mem_of_mem_filter ht)

lemma attached (h : WellTyped g) {l type : String} {dprops rprops : Props R}
    (hd : Typed dprops) (hr : Typed rprops) {ns : List (Node R)}
    {ts : List (Node R × Rel R × Node R)} (hts : Attached l type dprops rprops ns g g' ts) :
    WellTyped g' where
  node n hn := by
    rw [hts.nodes] at hn
    rcases List.mem_append.mp hn with hn | hn
    · exact h.node n hn
    · obtain ⟨t, ht, rfl⟩ := List.mem_map.mp hn
      rwa [(hts.dst t ht).2]
  rel t ht := by
    rw [hts.triples] at ht
    rcases List.mem_append.mp ht with ht | ht
    · exact h.rel t ht
    · rwa [(hts.rel t ht).2]

lemma linked (h : WellTyped g) {type : String} {rprops : Props R} (hr : Typed rprops)
    {ps : List (Node R × Node R)} {ts : List (Node R × Rel R × Node R)}
    (hts : Linked type rprops ps g g' ts) : WellTyped g' where
  node n hn := h.node n (hts.nodes ▸ hn)
  rel t ht := by
    rw [hts.triples] at ht
    rcases List.mem_append.mp ht with ht | ht
    · exact h.rel t ht
    · rwa [(hts.rel t ht).2]

variable [Field R] [LinearOrder R]

lemma setRegistrations (h : WellTyped g) (glm : Glm R) (dk sk : String) (t : Transform R) :
    WellTyped (setRegistrations glm g dk sk t) := by
  refine h.mapRels fun u hu => ?_
  split
  · exact typed_storeTransform glm t (h.rel u hu)
  · exact h.rel u hu

/-- Every query keeps the types. -/
lemma effect {fn : String → R → R} {env : Env R} (h : WellTyped g) (hg' : Effect fn env g g') :
    WellTyped g' := by
  cases hg' with
  | create _ _ => exact h.addNode (typed_sceneProps _ _) _
  | attach hts => exact h.attached (typed_deviceProps _ _ _ _) (typed_linkProps _ _) hts
  | maintenance hg' =>
      cases hg' with
      | none => exact h
      | updateScenes opType scn =>
          refine h.mapNodes fun n hn => ?_
          split
          · exact typed_updateProps fn opType scn (h.node n hn)
          · exact h.node n hn
      | deleteScenes k => exact h.detachDelete _
      | removeDevices dk sk => exact h.detachDelete _
      | realignment hg' =>
          cases hg' with
          | none => exact h
          | link hts => exact h.linked (typed_linkProps _ _) hts
          | setRegistrations dk sk t => exact h.setRegistrations _ dk sk t

/-- Every run keeps the types. -/
theorem serveAll (h : WellTyped g) (fn : String → R → R) (env : Env R)
    (rs : List (Request R)) : WellTyped (serveAll fn env g rs) :=
  serveAll_invariant fn (fun _ _ hg' h => h.effect hg') h rs

end WellTyped

end Graphs

end Types

end CrazyIvan
