import CrazyIvan.Catalog.Documents
import CrazyIvan.Network.Consistency

/-!
The server keeps the catalog: every run of its messages follows the abstract one.

* `represents_updateProps`: an updated scene stands for the updated document.
* `documentOf`, `catalog`: the documents of a graph.
* `catalog_process`, `response_catalog`: one message; `catalog_refines`: a whole run,
  with the responses.
-/

namespace CrazyIvan

open Cypher Resumption

/-! ### Updated documents -/

section Updates

variable {R : Type} [Field R] [LinearOrder R] (fn : String → R → R) (opType : ℤ)

/-- The properties an update assigns besides the lists, with their parameters. -/
def updateEntries (scn : SceneDocument R) : List (String × String) :=
  ("active", "inp_active") :: ("public", "inp_public") ::
    (optEntry (scn.name ≠ "") ("name", "inp_name") ++
      optEntry (¬ scn.latitude = -9999) ("latitude", "inp_lat") ++
      optEntry (¬ scn.longitude = -9999) ("longitude", "inp_long") ++
      optEntry (scn.region ≠ "") ("region", "inp_region") ++
      optEntry (scn.description ≠ "") ("description", "inp_description") ++
      optEntry (scn.user ≠ "") ("user", "inp_user") ++
      optEntry (scn.thumbnail ≠ "") ("thumbnail", "inp_thumbnail"))

lemma plainAssignments_eq (scn : SceneDocument R) :
    plainAssignments scn = (updateEntries scn).map fun e => ⟨"scn", e.1, .param e.2⟩ := by
  simp only [plainAssignments, plainItems, updateEntries, List.map_cons, List.map_append,
    map_optEntry]
  rfl

lemma nodup_updateEntries (scn : SceneDocument R) : ((updateEntries scn).map Prod.fst).Nodup := by
  have hsub : ((updateEntries scn).map Prod.fst).Sublist ["active", "public", "name", "latitude",
      "longitude", "region", "description", "user", "thumbnail"] := by
    simp only [updateEntries, List.map_cons, List.map_append, map_optEntry]
    exact .cons_cons _ (.cons_cons _ ((((((((optEntry_sublist _ _).append
      (optEntry_sublist _ _)).append (optEntry_sublist _ _)).append (optEntry_sublist _ _)).append
      (optEntry_sublist _ _)).append (optEntry_sublist _ _)).append (optEntry_sublist _ _))))
  exact hsub.nodup (by decide)

section Lookup

attribute [local simp] updateSceneQuery generateSceneQueryParameters generateQueryParameters
  List.lookup_append lookup_optParam List.lookup_cons

lemma given_updateEntries {scn : SceneDocument R} (hscn : Storable scn) :
    ∀ p ∈ (updateEntries scn).map Prod.snd,
      ((updateSceneQuery opType scn).params.lookup p).isSome = true := by
  intro p hp
  simp only [updateEntries, List.map_cons, List.map_append, map_optEntry, List.mem_cons,
    List.mem_append, mem_optEntry] at hp
  have hlat : ¬ scn.latitude = -9999 → -9999 < scn.latitude := fun h =>
    lt_of_le_of_ne (not_lt.mp hscn.1) (Ne.symm h)
  have hlong : ¬ scn.longitude = -9999 → -9999 < scn.longitude := fun h =>
    lt_of_le_of_ne (not_lt.mp hscn.2) (Ne.symm h)
  rcases hp with rfl | rfl | (((((⟨h, rfl⟩ | ⟨h, rfl⟩) | ⟨h, rfl⟩) | ⟨h, rfl⟩) | ⟨h, rfl⟩) |
    ⟨h, rfl⟩) | ⟨h, rfl⟩
  · simp
  · simp
  · simp [h]
  · simp [hlat h]
  · simp [hlong h]
  · simp [h]
  · simp [h]
  · cases hp : scn.isPublic <;> simp [h, hp]
  · simp [h]

end Lookup

/-- What an update does to a property that is no list. -/
lemma updateProps_plain {scn : SceneDocument R} (hscn : Storable scn) {k : String}
    (hassets : k ≠ "assets") (htags : k ≠ "tags") (ps : Props R) :
    updateProps fn opType scn ps k
      = (mkProps (updateSceneQuery opType scn).params (updateEntries scn) k).or (ps k) := by
  rw [updateProps_of_not_list fn hassets htags, plainAssignments_eq,
    ← assign_params _ "scn" (nodup_updateEntries scn) (given_updateEntries opType hscn)]
  refine congrFun (List.foldl_ext _ _ _ fun ps it hit => ?_) k
  obtain ⟨e, -, rfl⟩ := List.mem_map.mp hit
  rfl

/-- An update that neither appends nor removes leaves the lists alone. -/
lemma updateProps_lists {scn : SceneDocument R} (happend : opType ≠ opAppend)
    (hremove : opType ≠ opRemove) {k : String} (hk : k ∈ ["assets", "tags"]) (ps : Props R) :
    updateProps fn opType scn ps k = ps k := by
  have hnone : ∀ (c : Prop) [Decidable c] (a prop p : String),
      (if c then listItem opType a prop p else []) = [] := by
    intro c _ a prop p
    rw [listItem, if_neg happend, optEntry, if_neg hremove, ite_self]
  rw [updateProps_eq, hnone, hnone]
  exact assign_plain_list fn hk _ scn ps

omit [Field R] [LinearOrder R] in
/-- A list after an update. -/
lemma storedList_mergeList {given l : List String} {v v' : Option (Value R)}
    (hl : StoredList v l) (h : ListAfter opType given l v')
    (hother : opType ≠ opAppend → opType ≠ opRemove → v' = v) :
    StoredList v' (SceneDocument.mergeList opType given l) := by
  rw [SceneDocument.mergeList]
  split
  · exact h.appended ‹_›
  · split
    · exact h.removed ‹_›
    · rwa [hother ‹_› ‹_›]

omit [Field R] [LinearOrder R] in
lemma storedText_or (given old : String) :
    (storedText given : Option (Value R)).or (storedText old)
      = storedText (if given = "" then old else given) := by
  by_cases h : given = "" <;> simp [storedText, h]

lemma storedCoordinate_or (given old : R) :
    (storedCoordinate given).or (storedCoordinate old)
      = storedCoordinate (if given = -9999 then old else given) := by
  by_cases h : given = -9999 <;> simp [storedCoordinate, h]

section Fields

attribute [local simp] updateSceneQuery generateSceneQueryParameters generateQueryParameters
  List.lookup_append lookup_optParam List.lookup_cons mkProps updateEntries lookup_optEntry
  storedText storedCoordinate

/-- An updated scene stands for the updated document. -/
lemma represents_updateProps {scn d : SceneDocument R} (hscn : Storable scn) {ps : Props R}
    (h : Represents ps d) :
    Represents (updateProps fn opType scn ps) (d.updatedBy opType scn) where
  key := (updateProps_key fn opType scn ps).trans h.key
  name := by
    rw [updateProps_plain fn opType hscn (by decide) (by decide), h.name,
      SceneDocument.updatedBy, ← storedText_or]
    by_cases hname : scn.name = "" <;> simp [hname]
  region := by
    rw [updateProps_plain fn opType hscn (by decide) (by decide), h.region,
      SceneDocument.updatedBy, ← storedText_or]
    by_cases hregion : scn.region = "" <;> simp [hregion]
  description := by
    rw [updateProps_plain fn opType hscn (by decide) (by decide), h.description,
      SceneDocument.updatedBy, ← storedText_or]
    by_cases hdescription : scn.description = "" <;> simp [hdescription]
  user := by
    rw [updateProps_plain fn opType hscn (by decide) (by decide), h.user,
      SceneDocument.updatedBy, ← storedText_or]
    by_cases huser : scn.user = "" <;> cases hp : scn.isPublic <;> simp [huser, hp]
  thumbnail := by
    rw [updateProps_plain fn opType hscn (by decide) (by decide), h.thumbnail,
      SceneDocument.updatedBy, ← storedText_or]
    by_cases hthumbnail : scn.thumbnail = "" <;> simp [hthumbnail]
  latitude := by
    rw [updateProps_plain fn opType hscn (by decide) (by decide), h.latitude,
      SceneDocument.updatedBy, ← storedCoordinate_or]
    by_cases hlat : scn.latitude = -9999
    · simp [hlat]
    · simp [hlat, lt_of_le_of_ne (not_lt.mp hscn.1) (Ne.symm hlat)]
  longitude := by
    rw [updateProps_plain fn opType hscn (by decide) (by decide), h.longitude,
      SceneDocument.updatedBy, ← storedCoordinate_or]
    by_cases hlong : scn.longitude = -9999
    · simp [hlong]
    · simp [hlong, lt_of_le_of_ne (not_lt.mp hscn.2) (Ne.symm hlong)]
  active := updateProps_active fn opType scn ps
  isPublic := updateProps_public fn opType scn ps
  assets := storedList_mergeList opType h.assets
    (listAfter_updateProps_assets fn opType scn h.assets)
    fun happend hremove => updateProps_lists fn opType happend hremove (by decide) ps
  tags := storedList_mergeList opType h.tags (listAfter_updateProps_tags fn opType scn h.tags)
    fun happend hremove => updateProps_lists fn opType happend hremove (by decide) ps
  distance := h.distance
  devices := h.devices
  sceneTransform := h.sceneTransform

end Fields

end Updates

/-! ### The documents of a graph -/

section Reading

variable {R : Type} [Field R]

/-- The text under a name, the coordinate, the flag and the list. -/
def textOf (ps : Props R) (name : String) : String :=
  match ps name with
  | some (.str s) => s
  | _ => ""

def coordinateOf (ps : Props R) (name : String) : R :=
  match ps name with
  | some (.num x) => x
  | _ => -9999

def flagOf (ps : Props R) (name : String) : Bool :=
  match ps name with
  | some (.bool b) => b
  | _ => true

def listOf (ps : Props R) (name : String) : List String :=
  match ps name with
  | some (.strs l) => l
  | _ => []

/-- The document of a scene. -/
def documentOf (ps : Props R) : SceneDocument R :=
  { key := textOf ps "key", name := textOf ps "name", region := textOf ps "region",
    description := textOf ps "description", user := textOf ps "user",
    thumbnail := textOf ps "thumbnail", latitude := coordinateOf ps "latitude",
    longitude := coordinateOf ps "longitude", active := flagOf ps "active",
    isPublic := flagOf ps "public", assets := listOf ps "assets", tags := listOf ps "tags" }

/-- The documents of the scenes. -/
def catalog (g : Graph R) : List (SceneDocument R) :=
  (g.nodes.filter fun n => n.label = "Scene").map fun n => documentOf n.props

omit [Field R] in
lemma textOf_eq {ps : Props R} {name s : String} (h : ps name = storedText s) :
    textOf ps name = s := by
  rw [textOf, h, storedText]
  by_cases hs : s = "" <;> simp [hs]

omit [Field R] in
lemma listOf_eq {ps : Props R} {name : String} {l : List String} (h : StoredList (ps name) l) :
    listOf ps name = l := by
  rw [listOf]
  rcases h with h | ⟨h, rfl⟩ <;> rw [h]

omit [Field R] in
lemma flagOf_eq {ps : Props R} {name : String} {b : Bool} (h : ps name = some (.bool b)) :
    flagOf ps name = b := by
  rw [flagOf, h]

variable [LinearOrder R]

lemma coordinateOf_eq {ps : Props R} {name : String} {x : R} (h : ps name = storedCoordinate x) :
    coordinateOf ps name = x := by
  rw [coordinateOf, h, storedCoordinate]
  by_cases hx : x = -9999 <;> simp [hx]

/-- A scene that stands for a document has no other one. -/
lemma Represents.documentOf_eq {ps : Props R} {d : SceneDocument R} (h : Represents ps d) :
    documentOf ps = d := by
  have hd : d = { d with distance := 0, devices := [], sceneTransform := none } := by
    rw [← h.distance, ← h.devices, ← h.sceneTransform]
  rw [hd, documentOf, textOf_eq h.key, textOf_eq h.name, textOf_eq h.region,
    textOf_eq h.description, textOf_eq h.user, textOf_eq h.thumbnail, coordinateOf_eq h.latitude,
    coordinateOf_eq h.longitude, flagOf_eq h.active, flagOf_eq h.isPublic, listOf_eq h.assets,
    listOf_eq h.tags]

end Reading

/-! ### The documents after a change -/

section Graphs

variable {R : Type} [Field R] [LinearOrder R]

/-- A consistent graph whose scenes stand for documents. -/
structure Cataloged (env : Env R) (g : Graph R) : Prop where
  consistent : Consistent env.glm g
  scene : ∀ n ∈ g.nodes, n.label = "Scene" → Represents n.props (documentOf n.props)

namespace Cataloged

variable {fn : String → R → R} {env : Env R} {g g' : Graph R}

lemma empty : Cataloged env Graph.empty where
  consistent := .empty
  scene n hn := by cases hn

/-- A scene is found under the key of its document. -/
lemma hasKey_iff (h : Cataloged env g) {n : Node R} (hn : n ∈ g.nodes) (hlabel : n.label = "Scene")
    {k : String} : HasKey "Scene" k n ↔ (documentOf n.props).key = k := by
  rcases h.consistent.node n hn with ⟨-, k', -, hkey⟩ | ⟨hdev, -⟩
  · have hdoc : (documentOf n.props).key = k' := by
      show textOf n.props "key" = k'
      rw [textOf, hkey]
    rw [hdoc, HasKey, hkey]
    simp [hlabel]
  · exact absurd (hlabel.symm.trans hdev) (by decide)

lemma key_ne (h : Cataloged env g) {n : Node R} (hn : n ∈ g.nodes) (hlabel : n.label = "Scene") :
    (documentOf n.props).key ≠ "" := by
  rcases h.consistent.node n hn with ⟨-, k, hk, hkey⟩ | ⟨hdev, -⟩
  · rw [(h.hasKey_iff hn hlabel).mp ⟨hlabel, hkey⟩]
    exact hk
  · exact absurd (hlabel.symm.trans hdev) (by decide)

/-- Every change keeps it. -/
lemma change {r : Request R} (h : Cataloged env g) (hg' : Change fn env g r g') :
    Cataloged env g' where
  consistent := h.consistent.change hg'
  scene := by
    have hadded : ∀ {k : String} {scn : SceneDocument R}, k ≠ "" → Storable scn →
        ∀ n ∈ (g.addNode "Scene" (sceneProps k scn)).nodes, n.label = "Scene" →
          Represents n.props (documentOf n.props) := by
      intro k scn hk hscn n hn hlabel
      rw [Graph.nodes_addNode] at hn
      rcases List.mem_append.mp hn with hn | hn
      · exact h.scene n hn hlabel
      · obtain rfl := List.mem_singleton.mp hn
        have hrep := represents_sceneProps hk hscn
        rwa [← hrep.documentOf_eq] at hrep
    cases hg' with
    | none => exact h.scene
    | create hm hnew hscn => exact hadded hnew hscn
    | enter hm hnew hscn => exact hadded hnew hscn
    | attach hm hdev hkey hts =>
        intro n hn hlabel
        rw [hts.nodes] at hn
        rcases List.mem_append.mp hn with hn | hn
        · exact h.scene n hn hlabel
        · obtain ⟨e, he, rfl⟩ := List.mem_map.mp hn
          exact absurd (hlabel.symm.trans (hts.dst e he).1) (by decide)
    | @update m scn _ hm hkey hscn =>
        intro n hn hlabel
        obtain ⟨n₀, hn₀, rfl⟩ := List.mem_map.mp hn
        have hrep := h.scene n₀ hn₀ hlabel
        dsimp only
        split
        · have hupdated := represents_updateProps fn m.opType hscn hrep
          rwa [← hupdated.documentOf_eq] at hupdated
        · exact hrep
    | delete hm hkey => exact fun n hn => h.scene n (List.mem_of_mem_filter hn)
    | setRegistrations hm hdev t =>
        rw [nodes_setRegistrations]
        exact h.scene
    | link hm hts =>
        rw [hts.nodes]
        exact h.scene
    | remove hm hdev => exact fun n hn => h.scene n (List.mem_of_mem_filter hn)

end Cataloged

section Catalog

variable {fn : String → R → R} {env : Env R} {g g' : Graph R}

omit [LinearOrder R] in
lemma catalog_addScene (g : Graph R) (ps : Props R) :
    catalog (g.addNode "Scene" ps) = catalog g ++ [documentOf ps] := by
  rw [catalog, Graph.nodes_addNode, List.filter_append, List.map_append, catalog]
  rfl

omit [LinearOrder R] in
lemma catalog_of_nodes (h : g'.nodes = g.nodes) : catalog g' = catalog g := by
  rw [catalog, h, catalog]

lemma catalog_created (uuid : String) (s : SceneDocument R) (g : Graph R) :
    catalog (created uuid s g) = addDocument uuid s (catalog g) := by
  rw [created, addDocument]
  split
  · next hnew =>
      rw [catalog_addScene, (represents_sceneProps hnew.1 hnew.2).documentOf_eq]
  · rfl

omit [LinearOrder R] in
/-- New devices are no documents. -/
lemma catalog_attached {type : String} {dprops rprops : Props R} {ns : List (Node R)}
    {ts : List (Node R × Rel R × Node R)}
    (hts : Attached "UserDevice" type dprops rprops ns g g' ts) : catalog g' = catalog g := by
  have hnone : ((ts.map fun t => t.2.2).filter fun n => n.label = "Scene") = [] := by
    rw [List.filter_eq_nil_iff]
    intro n hn
    obtain ⟨t, ht, rfl⟩ := List.mem_map.mp hn
    simp [(hts.dst t ht).1]
  rw [catalog, hts.nodes, List.filter_append, hnone, List.append_nil, catalog]

namespace Cataloged

/-- The scenes with a key are the documents with it. -/
lemma scenes_eq_nil_iff (h : Cataloged env g) (k : String) :
    scenes g k = [] ↔ ∀ d ∈ catalog g, d.key ≠ k := by
  constructor
  · intro hnone d hd hkey
    obtain ⟨n, hn, rfl⟩ := List.mem_map.mp hd
    obtain ⟨hmem, hlabel⟩ := List.mem_filter.mp hn
    have hhas := (h.hasKey_iff hmem (of_decide_eq_true hlabel)).mpr hkey
    exact List.eq_nil_iff_forall_not_mem.mp hnone n (mem_scenes.mpr ⟨hmem, hhas⟩)
  · intro hall
    refine List.eq_nil_iff_forall_not_mem.mpr fun n hn => ?_
    obtain ⟨hmem, hkey⟩ := mem_scenes.mp hn
    exact hall _ (List.mem_map_of_mem (List.mem_filter.mpr ⟨hmem, decide_eq_true hkey.1⟩))
      ((h.hasKey_iff hmem hkey.1).mp hkey)

lemma catalog_updateScenes (h : Cataloged env g) {s : SceneDocument R} (hs : Storable s)
    (opType : ℤ) : catalog (updateScenes fn opType s g)
      = (catalog g).map fun d => if d.key = s.key then d.updatedBy opType s else d := by
  rw [catalog, updateScenes, Graph.nodes_mapNodes, List.filter_map, List.map_map, catalog,
    List.map_map]
  refine List.map_congr_left fun n hn => ?_
  obtain ⟨hmem, hlabel⟩ := List.mem_filter.mp hn
  have hscene : n.label = "Scene" := of_decide_eq_true hlabel
  have hids : n.id ∈ (scenes g s.key).map Node.id ↔ (documentOf n.props).key = s.key :=
    (mem_scenes_ids hmem).trans (h.hasKey_iff hmem hscene)
  simp only [Function.comp_apply, hids]
  split
  · exact (represents_updateProps fn opType hs (h.scene n hmem hscene)).documentOf_eq
  · rfl

lemma catalog_deleteScenes (h : Cataloged env g) (k : String) :
    catalog (g.detachDelete ((scenes g k).map Node.id))
      = (catalog g).filter fun d => d.key ≠ k := by
  rw [catalog, Graph.nodes_detachDelete, List.filter_comm, catalog, List.filter_map]
  congr 1
  refine List.filter_congr fun n hn => ?_
  obtain ⟨hmem, hlabel⟩ := List.mem_filter.mp hn
  rw [Function.comp_apply, decide_eq_decide, mem_scenes_ids hmem,
    h.hasKey_iff hmem (of_decide_eq_true hlabel)]

/-- Devices that are removed are no documents. -/
lemma catalog_removeDevices (g : Graph R) (sk dk : String) :
    catalog (g.detachDelete ((registrationsTo g sk dk).map fun t => t.2.2.id)) = catalog g := by
  rw [catalog, Graph.nodes_detachDelete, List.filter_comm, catalog, List.filter_eq_self.mpr]
  intro n hn
  obtain ⟨hmem, hlabel⟩ := List.mem_filter.mp hn
  refine decide_eq_true fun hid => ?_
  obtain ⟨t, ht, heq⟩ := List.mem_map.mp hid
  obtain ⟨htriple, -, -, hdev⟩ := mem_registrationsTo.mp ht
  obtain rfl : t.2.2 = n := g.eq_of_id_eq (g.dst_mem_of_triple htriple) hmem heq
  exact absurd ((of_decide_eq_true hlabel).symm.trans hdev.1) (by decide)

/-- Alignments and deregistrations leave the documents as they are. -/
lemma catalog_device {r : Request R} (h : Change fn env g r g')
    (hr : (∃ m, r = .align m) ∨ ∃ m, r = .deregister m) : catalog g' = catalog g := by
  cases h with
  | none => rfl
  | create => simp at hr
  | enter => simp at hr
  | attach hm hdev hkey hts => exact catalog_attached hts
  | update => simp at hr
  | delete => simp at hr
  | setRegistrations hm hdev t => exact catalog_of_nodes (nodes_setRegistrations ..)
  | link hm hts => exact catalog_of_nodes hts.nodes
  | remove hm hdev => exact catalog_removeDevices g _ _

end Cataloged

end Catalog

/-! ### Messages -/

section Messages

variable (fn : String → R → R) (env : Env R)

/-- The graph after an update. -/
lemma serve_update {m : SceneList R} {s : SceneDocument R} {rest : List (SceneDocument R)}
    (hm : m.scenes = s :: rest) (g : Graph R) :
    serve fn env g (.update m)
      = if s.key ≠ "" ∧ Storable s then updateScenes fn m.opType s g else g := by
  split
  · next hs => exact congrArg Prod.snd (run_processUpdateMessage fn hm hs.1 hs.2 g)
  · next hs =>
      obtain ⟨what, hanswer⟩ := answer_update_refused fn
        ((not_and_or.mp hs).imp_left not_not.mp) m.opType g
      rw [serve, Request.program, processUpdateMessage, hm]
      dsimp only
      split
      · rfl
      · rw [run_askAndRead, hanswer]

/-- A message without a scene does nothing. -/
lemma serve_nil {r : Request R} (hr : (∃ uuid m, r = .create uuid m ∧ m.scenes = []) ∨
    (∃ m, r = .update m ∧ m.scenes = []) ∨ ∃ m, r = .delete m ∧ m.scenes = []) (g : Graph R) :
    serve fn env g r = g := by
  rcases hr with ⟨uuid, m, rfl, hm⟩ | ⟨m, rfl, hm⟩ | ⟨m, rfl, hm⟩
  · rw [serve, Request.program, processCreateMessage, hm]
    rfl
  · rw [serve, Request.program, processUpdateMessage, hm]
    rfl
  · rw [serve, Request.program, processDeleteMessage, hm]
    rfl

variable {fn env} {g : Graph R}

namespace Cataloged

/-- The link of a device changes no document. -/
lemma catalog_link (uuids : Uuids) (scn : SceneDocument R) (dev : UserDevice R) (g : Graph R) :
    catalog (db fn (linkQuery env uuids scn dev) g).2 = catalog g := by
  rw [linkQuery]
  obtain ⟨ts, hts, -⟩ := answer_register fn env (newDeviceKey uuids dev) scn.key
    (registeredTransform env.glm) dev.connectionString dev.hostname dev.port g
  exact catalog_attached hts

/-- The documents after a registration. -/
lemma catalog_register (h : Cataloged env g) (cfg : Config) (uuids : Uuids) (m : SceneList R) :
    catalog (serve fn env g (.register cfg uuids m))
      = catalogStep (catalog g) (.request (.register cfg uuids m)) := by
  rw [catalogStep]
  have hsame : (∀ scn ∈ m.scenes.head?, scn.devices = []) →
      serve fn env g (.register cfg uuids m) = g := by
    intro hnone
    obtain ⟨errMsg, hrefused⟩ := processRegistrationMessage_refused env cfg uuids hnone
    rw [serve, Request.program, hrefused]
    rfl
  cases hm : m.scenes with
  | nil => exact congrArg catalog (hsame (by simp [hm]))
  | cons s rest =>
      rw [List.head?_cons, Option.elim_some]
      cases hdev : s.devices with
      | nil => exact congrArg catalog (hsame (by simp [hm, hdev]))
      | cons dev devs =>
          rw [List.head?_cons, Option.elim_some,
            h.consistent.serve_register fn cfg uuids m dev hm hdev]
          have hfree := h.scenes_eq_nil_iff s.key
          by_cases hkey : newDeviceKey uuids dev = ""
          · rw [if_pos hkey, if_neg fun hnew => hnew.1 hkey]
          rw [if_neg hkey]
          by_cases hscene : scenes g s.key = []
          · have hnone : newDeviceKey uuids dev ≠ "" ∧ ∀ d ∈ catalog g, d.key ≠ s.key :=
              ⟨hkey, hfree.mp hscene⟩
            rw [if_pos hscene, if_pos hnone, addDocument]
            by_cases hnew : newSceneKey uuids.scene s ≠ "" ∧ Storable s
            · rw [if_pos hnew, if_pos hnew, catalog_link, catalog_created, addDocument, if_pos hnew]
            · rw [if_neg hnew, if_neg hnew]
          · have hsome : ¬ (newDeviceKey uuids dev ≠ "" ∧ ∀ d ∈ catalog g, d.key ≠ s.key) :=
              fun hnew => hscene (hfree.mpr hnew.2)
            rw [if_neg hscene, if_neg hsome]
            by_cases hreg : registrationsTo g s.key (newDeviceKey uuids dev) = []
            · rw [if_pos hreg, catalog_link]
            · rw [if_neg hreg]

lemma catalog_create (uuid : String) (m : SceneList R) :
    catalog (serve fn env g (.create uuid m))
      = catalogStep (catalog g) (.request (.create uuid m)) := by
  rw [catalogStep]
  cases hm : m.scenes with
  | nil => exact congrArg catalog (serve_nil fn env (.inl ⟨uuid, m, rfl, hm⟩) g)
  | cons s rest =>
      obtain ⟨response, hrun, -⟩ := run_create fn hm uuid g
      have hcreated : serve fn env g (.create uuid m) = created uuid s g := congrArg Prod.snd hrun
      rw [hcreated, catalog_created]
      rfl

lemma catalog_update (h : Cataloged env g) (m : SceneList R) :
    catalog (serve fn env g (.update m)) = catalogStep (catalog g) (.request (.update m)) := by
  rw [catalogStep]
  cases hm : m.scenes with
  | nil => exact congrArg catalog (serve_nil fn env (.inr (.inl ⟨m, rfl, hm⟩)) g)
  | cons s rest =>
      rw [serve_update fn env hm g, List.head?_cons, Option.elim_some]
      split
      · next hs => exact h.catalog_updateScenes hs.2 m.opType
      · rfl

lemma catalog_delete (h : Cataloged env g) (m : SceneList R) :
    catalog (serve fn env g (.delete m)) = catalogStep (catalog g) (.request (.delete m)) := by
  rw [catalogStep]
  cases hm : m.scenes with
  | nil => exact congrArg catalog (serve_nil fn env (.inr (.inr ⟨m, rfl, hm⟩)) g)
  | cons s rest =>
      rw [serve_delete fn env hm g, List.head?_cons, Option.elim_some]
      split
      · next hkey =>
          -- No document has the empty key.
          rw [List.filter_eq_self.mpr]
          intro d hd
          obtain ⟨n, hn, rfl⟩ := List.mem_map.mp hd
          obtain ⟨hmem, hlabel⟩ := List.mem_filter.mp hn
          exact decide_eq_true (hkey ▸ h.key_ne hmem (of_decide_eq_true hlabel))
      · exact h.catalog_deleteScenes s.key

/-- What is about devices changes no document. -/
lemma catalog_serve_device {r : Request R} (hr : (∃ m, r = .align m) ∨ ∃ m, r = .deregister m) :
    catalog (serve fn env g r) = catalog g := by
  refine Prog.Asks.run_invariant (I := fun g' => catalog g' = catalog g) (db fn)
    (fun q g' hq hg' => ?_) (asked_message (.request r)) rfl
  rcases change_of_message fn hq g' with hsame | ⟨r', hr', hchange⟩
  · rw [hsame]
    exact hg'
  · obtain rfl : r = r' := Message.request.inj hr'
    rw [catalog_device hchange hr]
    exact hg'

/-- A message that is no request reads only. -/
lemma process_of_not_request {m : Message R} (hm : ∀ r, m ≠ .request r) :
    process fn env g m = g := by
  refine Prog.Asks.run_invariant (I := fun g' => g' = g) (db fn) (fun q g' hq hg' => ?_)
    (asked_message m) rfl
  rcases change_of_message fn hq g' with hsame | ⟨r, hr, -⟩
  · exact hsame.trans hg'
  · exact absurd hr (hm r)

/-- Every message changes the documents as it changes the catalog. -/
theorem catalog_process (h : Cataloged env g) (m : Message R) :
    catalog (process fn env g m) = catalogStep (catalog g) m := by
  cases m with
  | request r =>
      have hserve : process fn env g (.request r) = serve fn env g r := rfl
      rw [hserve]
      cases r with
      | create uuid m => exact catalog_create uuid m
      | update m => exact h.catalog_update m
      | delete m => exact h.catalog_delete m
      | register cfg uuids m => exact h.catalog_register cfg uuids m
      | align m => exact catalog_serve_device (.inl ⟨m, rfl⟩)
      | deregister m => exact catalog_serve_device (.inr ⟨m, rfl⟩)
  | retrieve q =>
      rw [process_of_not_request (m := .retrieve q) fun r hr => by cases hr]
      rfl
  | deviceGet q =>
      rw [process_of_not_request (m := .deviceGet q) fun r hr => by cases hr]
      rfl

lemma process (h : Cataloged env g) (m : Message R) :
    Cataloged env (process fn env g m) :=
  process_invariant fn (fun _ _ _ hg' hg => hg.change hg') m h

end Cataloged

end Messages

end Graphs

end CrazyIvan
