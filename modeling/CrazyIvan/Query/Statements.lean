import CrazyIvan.Cypher.Rules
import CrazyIvan.Processor.CrudMessageProcessor

/-!
What the statements of the query helpers do: one lemma for each query, giving
the rows it returns and the graph after it.

* `scenes`, `registrations`, `IsRegistration`, `IsSceneLink`: the stored network.
* `linkProps`: the properties a stored transform has.
* `answer_register`, `answer_registerExisting`, `answer_remove`, `answer_updateDevice`,
  `answer_createLink`: the writes; `answer_updateLink` is refused.
-/

namespace CrazyIvan

open Cypher

section Network

variable {R : Type} [LinearOrder R]

/-! ### The stored network -/

/-- A node with a label and a key. -/
def HasKey (label k : String) (n : Node R) : Prop :=
  n.label = label ∧ n.props "key" = some (.str k)

instance (label k : String) (n : Node R) : Decidable (HasKey label k n) := by
  unfold HasKey; infer_instance

omit [LinearOrder R] in
lemma HasKey.key_eq {label label' k k' : String} {n : Node R} (h : HasKey label k n)
    (h' : HasKey label' k' n) : k = k' :=
  Value.str.inj (Option.some.inj (h.2.symm.trans h'.2))

/-- The scenes with a key. -/
def scenes (g : Graph R) (k : String) : List (Node R) :=
  g.nodes.filter fun n => HasKey "Scene" k n

/-- The devices with a key. -/
def devices (g : Graph R) (k : String) : List (Node R) :=
  g.nodes.filter fun n => HasKey "UserDevice" k n

/-- A relationship from a scene to a user device. -/
def IsRegistration (t : Node R × Rel R × Node R) : Prop :=
  t.1.label = "Scene" ∧ t.2.1.type = "TRANSFORM" ∧ t.2.2.label = "UserDevice"

instance (t : Node R × Rel R × Node R) : Decidable (IsRegistration t) := by
  unfold IsRegistration; infer_instance

/-- A relationship between two scenes. -/
def IsSceneLink (t : Node R × Rel R × Node R) : Prop :=
  t.1.label = "Scene" ∧ t.2.1.type = "TRANSFORM" ∧ t.2.2.label = "Scene"

instance (t : Node R × Rel R × Node R) : Decidable (IsSceneLink t) := by
  unfold IsSceneLink; infer_instance

/-- The registrations of the devices with a key. -/
def registrations (g : Graph R) (dk : String) : List (Node R × Rel R × Node R) :=
  g.triples.filter fun t => IsRegistration t ∧ HasKey "UserDevice" dk t.2.2

/-- The registrations of the devices with a key to the scenes with a key. -/
def registrationsTo (g : Graph R) (sk dk : String) : List (Node R × Rel R × Node R) :=
  g.triples.filter fun t =>
    HasKey "Scene" sk t.1 ∧ t.2.1.type = "TRANSFORM" ∧ HasKey "UserDevice" dk t.2.2

/-- The devices registered to the scenes with a key, once for each
registration. -/
def devicesOf (g : Graph R) (sk : String) : List (Node R) :=
  (g.triples.filter fun t =>
    HasKey "Scene" sk t.1 ∧ t.2.1.type = "TRANSFORM" ∧ t.2.2.label = "UserDevice").map
      fun t => t.2.2

lemma mem_scenes {g : Graph R} {k : String} {n : Node R} :
    n ∈ scenes g k ↔ n ∈ g.nodes ∧ HasKey "Scene" k n := by
  simp [scenes]

lemma mem_devices {g : Graph R} {k : String} {n : Node R} :
    n ∈ devices g k ↔ n ∈ g.nodes ∧ HasKey "UserDevice" k n := by
  simp [devices]

lemma mem_registrationsTo {g : Graph R} {sk dk : String} {t : Node R × Rel R × Node R} :
    t ∈ registrationsTo g sk dk ↔ t ∈ g.triples ∧ HasKey "Scene" sk t.1 ∧
      t.2.1.type = "TRANSFORM" ∧ HasKey "UserDevice" dk t.2.2 := by
  simp [registrationsTo]

/-- A device with a key among them is a registration. -/
lemma exists_devicesOf_iff {g : Graph R} {sk dk : String} :
    (∃ n ∈ devicesOf g sk, n.props "key" = some (.str dk)) ↔ registrationsTo g sk dk ≠ [] := by
  simp only [devicesOf, List.mem_map, List.mem_filter, decide_eq_true_eq]
  constructor
  · rintro ⟨n, ⟨t, ⟨ht, hs, htype, hlabel⟩, rfl⟩, hkey⟩
    exact List.ne_nil_of_mem (mem_registrationsTo.mpr ⟨ht, hs, htype, hlabel, hkey⟩)
  · intro hne
    obtain ⟨t, hmem⟩ := List.exists_mem_of_ne_nil _ hne
    obtain ⟨ht, hs, htype, hlabel, hkey⟩ := mem_registrationsTo.mp hmem
    exact ⟨t.2.2, ⟨t, ⟨ht, hs, htype, hlabel⟩, rfl⟩, hkey⟩

end Network

/-! ### Stored transforms -/

section Stored

variable {R : Type}

/-- The properties of a stored transform, with their parameters. -/
def transformEntries : List (String × String) :=
  [("translation_x", "loc_x"), ("translation_y", "loc_y"), ("translation_z", "loc_z"),
    ("rotation_x", "rot_x"), ("rotation_y", "rot_y"), ("rotation_z", "rot_z")]

/-- The properties a stored transform has. -/
def linkProps [CommRing R] (glm : Glm R) (t : Transform R) : Props R :=
  mkProps (transformParams glm t) transformEntries

/-- The stored properties of a transform are those of `t`. -/
def Stores [CommRing R] (glm : Glm R) (t : Transform R) (ps : Props R) : Prop :=
  ∀ name ∈ transformEntries.map Prod.fst, ps name = linkProps glm t name

/-- The properties of a registered device, with their parameters. -/
def deviceEntries : List (String × String) :=
  [("key", "inp_ud_key"), ("connection_string", "ud_conn_str"), ("hostname", "ud_host"),
    ("port", "ud_port")]

/-- The properties a registered device has. -/
def deviceProps (dk conn host : String) (port : ℤ) : Props R :=
  mkProps [("inp_ud_key", .str dk), ("ud_conn_str", .str conn), ("ud_host", .str host),
    ("ud_port", .int port)] deviceEntries

/-- The assignments that store a transform. -/
def transformItems : List SetItem :=
  transformEntries.map fun e => ⟨"trans", e.1, .param e.2⟩

/-- The properties of a relationship after a transform is stored on it. -/
def storeTransform [CommRing R] (glm : Glm R) (t : Transform R) (ps : Props R) : Props R :=
  fun k => (linkProps glm t k).or (ps k)

/-- What holds of the parameters of a stored transform, one by one. -/
lemma forall_transformEntries {P : String → Prop} :
    (∀ p ∈ transformEntries.map Prod.snd, P p) ↔
      P "loc_x" ∧ P "loc_y" ∧ P "loc_z" ∧ P "rot_x" ∧ P "rot_y" ∧ P "rot_z" := by
  simp [transformEntries]

lemma assign_transformItems [CommRing R] (glm : Glm R) (t : Transform R) {params : Params R}
    (hp : ∀ p ∈ transformEntries.map Prod.snd,
      params.lookup p = (transformParams glm t).lookup p) (ps : Props R) :
    assign (paramVal params) transformItems ps = storeTransform glm t ps := by
  have hsent : ∀ p ∈ transformEntries.map Prod.snd,
      ((transformParams glm t).lookup p).isSome = true :=
    forall_transformEntries.mpr ⟨rfl, rfl, rfl, rfl, rfl, rfl⟩
  have hsome : ∀ p ∈ transformEntries.map Prod.snd, (params.lookup p).isSome = true :=
    fun p hp' => hp p hp' ▸ hsent p hp'
  funext k
  rw [transformItems, assign_params params "trans" (by decide) hsome, mkProps_congr hp]
  rfl

end Stored

/-! ### The statements -/

section Answers

variable {R : Type} [Field R] [LinearOrder R] (fn : String → R → R) (env : Env R)

/-- The database, answering queries from a graph. -/
def db (q : Query R) (g : Graph R) : Answer R × Graph R := answer fn q.text q.params g

/-- The node pattern of a scene given by its key. -/
def scnPat (v p : String) : NodePat := ⟨v, some "Scene", [("key", p)]⟩

/-- The node pattern of a device given by its key. -/
def udPat : NodePat := ⟨"ud", some "UserDevice", [("key", "inp_ud_key")]⟩

omit [Field R] in
lemma fits_hasKey {params : Params R} {v l p k : String}
    (hp : params.lookup p = some (.str k)) :
    NodePat.fits params ⟨v, some l, [("key", p)]⟩ = fun n => decide (HasKey l k n) := by
  funext n
  rw [fits_key _ hp, Bool.eq_iff_iff]
  simp only [Bool.and_eq_true, decide_eq_true_eq]
  rfl

lemma answer_sceneExists (k : String) (g : Graph R) :
    db fn (sceneExistsQuery k) g = (.rows ((scenes g k).map fun n => [.node n]), g) := by
  have hparse : parse (lex (sceneExistsQuery (R := R) k).text) =
      some ⟨[.node (scnPat "scn" "inp_key")], none, .none, ["scn"], none⟩ := by
    dsimp only [sceneExistsQuery]
    rewrite [lex_spelled]
    rfl
  have hkey : (sceneExistsQuery (R := R) k).params.lookup "inp_key" = some (.str k) := rfl
  rw [db, answer_eq fn hparse _ ["inp_key"] rfl (by decide) rfl]
  simp only [Update.apply, matchRows_node, scnPat, fits_hasKey hkey, scenes, List.map_map]
  rfl

lemma answer_isUdRegistered (k : String) (g : Graph R) :
    db fn (isUdRegisteredQuery k) g =
      (.rows ((devicesOf g k).map fun n => [.node n]), g) := by
  have hparse : parse (lex (isUdRegisteredQuery (R := R) k).text) =
      some ⟨[.edge (scnPat "scn" "inp_key") ⟨"tr", "TRANSFORM", []⟩
        ⟨"ud", some "UserDevice", []⟩], none, .none, ["ud"], none⟩ := by
    dsimp only [isUdRegisteredQuery]
    rewrite [lex_spelled]
    rfl
  have hkey : (isUdRegisteredQuery (R := R) k).params.lookup "inp_key" = some (.str k) := rfl
  rw [db, answer_eq fn hparse _ ["inp_key"] rfl (by decide) rfl]
  simp only [Update.apply, matchRows_edge, scnPat, fits_hasKey hkey, fits_label, rel_fits_type,
    List.map_map, Bool.decide_and, ← Bool.and_assoc, devicesOf]
  rfl

lemma answer_getRegistrations (dk : String) (g : Graph R) :
    db fn (getRegistrationsQuery dk) g =
      (.rows ((registrations g dk).map fun t => [.node t.1, .rel t.2.1, .node t.2.2]), g) := by
  have hparse : parse (lex (getRegistrationsQuery (R := R) dk).text) =
      some ⟨[.edge ⟨"scn", some "Scene", []⟩ ⟨"tr", "TRANSFORM", []⟩
        ⟨"ud", some "UserDevice", [("key", "inp_key")]⟩], none, .none, ["scn", "tr", "ud"],
        none⟩ := by
    dsimp only [getRegistrationsQuery]
    rewrite [lex_spelled]
    rfl
  have hkey : (getRegistrationsQuery (R := R) dk).params.lookup "inp_key" = some (.str dk) := rfl
  rw [db, answer_eq fn hparse _ ["inp_key"] rfl (by decide) rfl]
  have hfilter : ∀ t : Node R × Rel R × Node R,
      (decide (t.1.label = "Scene") && decide (t.2.1.type = "TRANSFORM") &&
        decide (HasKey "UserDevice" dk t.2.2)) =
        decide (IsRegistration t ∧ HasKey "UserDevice" dk t.2.2) := fun t => by
    rw [Bool.eq_iff_iff]
    simp only [Bool.and_eq_true, decide_eq_true_eq]
    simp only [IsRegistration, HasKey]
    tauto
  simp only [Update.apply, matchRows_edge, fits_hasKey hkey, fits_label, rel_fits_type, hfilter,
    List.map_map, registrations]
  rfl

/-! ### Writes -/

/-- The relationship and the device that a registration creates. -/
def registerPattern : Pattern :=
  .edge ⟨"scn", none, []⟩ ⟨"trans", "TRANSFORM", transformEntries⟩
    ⟨"ud", some "UserDevice", deviceEntries⟩

set_option maxRecDepth 2000 in
/-- A registration creates for every scene with the key. -/
lemma db_register (dk sk : String) (t : Transform R) (conn host : String) (port : ℤ)
    (g : Graph R) :
    let q := registerDeviceQuery env dk sk t false conn host port
    let res := createAll q.params registerPattern
      ((scenes g sk).map fun n => [("scn", .node n)]) g
    db fn q g = (.rows (res.1.map (project ["scn", "trans", "ud"])), res.2) := by
  have hparse : parse (lex (registerDeviceQuery env dk sk t false conn host port).text) =
      some ⟨[.node (scnPat "scn" "inp_key")], none, .create registerPattern,
        ["scn", "trans", "ud"], none⟩ := by
    dsimp only [registerDeviceQuery]
    rewrite [if_neg Bool.false_ne_true, lex_spelled]
    rfl
  intro q res
  have hanswer := answer_eq fn hparse q.params ["inp_key", "inp_ud_key", "loc_x", "loc_y",
    "loc_z", "rot_x", "rot_y", "rot_z", "ud_conn_str", "ud_host", "ud_port"] rfl
    (by decide) rfl g
  have hkey : q.params.lookup "inp_key" = some (.str sk) := rfl
  simp only [Update.apply, matchRows_node, scnPat, fits_hasKey hkey] at hanswer
  exact hanswer

/-- A registration makes a new device for every scene with the key. -/
lemma answer_register (dk sk : String) (t : Transform R) (conn host : String) (port : ℤ)
    (g : Graph R) :
    ∃ ts, Attached "UserDevice" "TRANSFORM" (deviceProps dk conn host port)
        (linkProps env.glm t) (scenes g sk) g
        (db fn (registerDeviceQuery env dk sk t false conn host port) g).2 ts ∧
      (db fn (registerDeviceQuery env dk sk t false conn host port) g).1 =
        .rows (ts.map fun t => [.node t.1, .rel t.2.1, .node t.2.2]) := by
  set q := registerDeviceQuery env dk sk t false conn host port
  have hlink : mkProps q.params transformEntries = linkProps env.glm t :=
    mkProps_congr (forall_transformEntries.mpr ⟨rfl, rfl, rfl, rfl, rfl, rfl⟩)
  have hdev : mkProps q.params deviceEntries = deviceProps dk conn host port := by
    refine mkProps_congr fun p hp => ?_
    simp only [deviceEntries, List.map_cons, List.map_nil, List.mem_cons, List.not_mem_nil,
      or_false] at hp
    rcases hp with rfl | rfl | rfl | rfl <;> rfl
  obtain ⟨ts, hts, hrows⟩ := createAll_attach q.params ⟨"scn", none, []⟩ "trans" "TRANSFORM"
    transformEntries "ud" "UserDevice" deviceEntries (by decide) (scenes g sk)
    (fun n hn => (mem_scenes.mp hn).1)
  rw [hdev, hlink] at hts
  rw [db_register]
  refine ⟨ts, hts, ?_⟩
  show Answer.rows (List.map _ (createAll q.params _ ((scenes g sk).map _) g).1) = _
  rw [registerPattern, hrows, List.map_map]
  rfl

/-- Deregistering deletes the devices the matched relationships lead to. -/
lemma answer_remove (dk sk : String) (g : Graph R) :
    db fn (removeDeviceQuery dk sk) g =
      (.rows ((registrationsTo g sk dk).map fun t => [.node t.1]),
        g.detachDelete ((registrationsTo g sk dk).map fun t => t.2.2.id)) := by
  have hparse : parse (lex (removeDeviceQuery (R := R) dk sk).text) =
      some ⟨[.edge (scnPat "scn" "inp_key") ⟨"trans", "TRANSFORM", []⟩ udPat], none,
        .detachDelete "ud", ["scn"], none⟩ := by
    dsimp only [removeDeviceQuery]
    rewrite [lex_spelled]
    rfl
  have hs : (removeDeviceQuery (R := R) dk sk).params.lookup "inp_key" = some (.str sk) := rfl
  have hd : (removeDeviceQuery (R := R) dk sk).params.lookup "inp_ud_key" = some (.str dk) := rfl
  rw [db, answer_eq fn hparse _ ["inp_key", "inp_ud_key"] rfl (by decide) rfl]
  have hfilter : ∀ t : Node R × Rel R × Node R,
      (decide (HasKey "Scene" sk t.1) && decide (t.2.1.type = "TRANSFORM") &&
        decide (HasKey "UserDevice" dk t.2.2)) =
        decide (HasKey "Scene" sk t.1 ∧ t.2.1.type = "TRANSFORM" ∧
          HasKey "UserDevice" dk t.2.2) := fun t => by
    rw [Bool.eq_iff_iff]
    simp only [Bool.and_eq_true, decide_eq_true_eq]
    exact and_assoc
  have hid : (nodeId (R := R) "ud" ∘ fun t : Node R × Rel R × Node R =>
      [("scn", .node t.1), ("trans", .rel t.2.1), ("ud", .node t.2.2)]) =
      some ∘ fun t => t.2.2.id := rfl
  simp only [Update.apply, matchRows_edge, scnPat, udPat, fits_hasKey hs, fits_hasKey hd,
    rel_fits_type, hfilter, List.map_map, List.filterMap_map, hid, List.filterMap_eq_map,
    registrationsTo]
  rfl

/-- The graph after the transform of the registrations of a device to a scene is
set. -/
def setRegistrations (glm : Glm R) (g : Graph R) (dk sk : String) (t : Transform R) : Graph R :=
  g.mapRels fun m =>
    if m.id ∈ (registrationsTo g sk dk).map (fun t => t.2.1.id) then storeTransform glm t m.props
    else m.props

lemma answer_updateDevice (dk sk : String) (t : Transform R) (g : Graph R) :
    (db fn (updateDeviceQuery env dk sk t) g).2 = setRegistrations env.glm g dk sk t ∧
      readUpdated (db fn (updateDeviceQuery env dk sk t) g).1
        = .ok (!(registrationsTo g sk dk).isEmpty) := by
  have hparse : parse (lex (updateDeviceQuery env dk sk t).text) =
      some ⟨[.edge (scnPat "scn" "inp_key") ⟨"trans", "TRANSFORM", []⟩ udPat], none,
        .set transformItems, ["scn", "trans", "ud"], none⟩ := by
    dsimp only [updateDeviceQuery]
    rewrite [lex_spelled]
    decide +kernel
  set q := updateDeviceQuery env dk sk t
  have hs : q.params.lookup "inp_key" = some (.str sk) := rfl
  have hd : q.params.lookup "inp_ud_key" = some (.str dk) := rfl
  have hanswer := answer_eq fn hparse q.params ["inp_key", "inp_ud_key", "loc_x", "loc_y",
    "loc_z", "rot_x", "rot_y", "rot_z"] rfl (by decide) rfl g
  have hfilter : ∀ t : Node R × Rel R × Node R,
      (decide (HasKey "Scene" sk t.1) && decide (t.2.1.type = "TRANSFORM") &&
        decide (HasKey "UserDevice" dk t.2.2)) =
        decide (HasKey "Scene" sk t.1 ∧ t.2.1.type = "TRANSFORM" ∧
          HasKey "UserDevice" dk t.2.2) := fun t => by
    rw [Bool.eq_iff_iff]
    simp only [Bool.and_eq_true, decide_eq_true_eq]
    exact and_assoc
  simp only [Update.apply, matchRows_edge, scnPat, udPat, fits_hasKey hs, fits_hasKey hd,
    rel_fits_type, hfilter] at hanswer
  rw [← registrationsTo] at hanswer
  have hval : ∀ it ∈ transformItems, it.var = "trans" ∧ ∀ (m : Rel R) (row : Row R),
      it.value.eval fn q.params (("trans", .rel m) :: row) = paramVal q.params it m.props := by
    intro it hit
    obtain ⟨e, -, rfl⟩ := List.mem_map.mp hit
    exact ⟨rfl, fun m row => rfl⟩
  have hnodup : ((registrationsTo g sk dk).map fun t => t.2.1.id).Nodup :=
    g.triples_nodup.sublist (List.filter_sublist.map _)
  have hitems : ∀ ps : Props R,
      assign (paramVal q.params) transformItems ps = storeTransform env.glm t ps :=
    assign_transformItems env.glm t (forall_transformEntries.mpr ⟨rfl, rfl, rfl, rfl, rfl, rfl⟩)
  rw [set_rels q.params fn (by decide) hval hnodup] at hanswer
  simp only [hitems] at hanswer
  constructor
  · rw [db, hanswer]
    rfl
  · rw [db, hanswer]
    cases registrationsTo g sk dk with
    | nil => rfl
    | cons t ts => rfl

/-- Where the transform of a registration is set the nodes stay. -/
lemma nodes_setRegistrations (glm : Glm R) (g : Graph R) (dk sk : String) (t : Transform R) :
    (setRegistrations glm g dk sk t).nodes = g.nodes := rfl

/-- The links between two scenes, in either direction. -/
def linksBetween (g : Graph R) (k₁ k₂ : String) : List (Node R × Rel R × Node R) :=
  g.triples.filter fun t => IsSceneLink t ∧
    ((HasKey "Scene" k₁ t.1 ∧ HasKey "Scene" k₂ t.2.2) ∨
      (HasKey "Scene" k₂ t.1 ∧ HasKey "Scene" k₁ t.2.2))

/-- The condition of the link query: the scenes with the two keys, either way
round. -/
def linkCond : Expr :=
  .bin .or
    (.bin .and (.bin .eq (.prop "scn" "key") (.param "inp_key1"))
      (.bin .eq (.prop "scn2" "key") (.param "inp_key2")))
    (.bin .and (.bin .eq (.prop "scn" "key") (.param "inp_key2"))
      (.bin .eq (.prop "scn2" "key") (.param "inp_key1")))

lemma holds_linkCond {params : Params R} {k₁ k₂ : String}
    (h₁ : params.lookup "inp_key1" = some (.str k₁))
    (h₂ : params.lookup "inp_key2" = some (.str k₂)) (s d : Node R) (r : Rel R) :
    holds fn params (some linkCond) [("scn", .node s), ("trans", .rel r), ("scn2", .node d)] =
      ((decide (s.props "key" = some (.str k₁)) && decide (d.props "key" = some (.str k₂))) ||
        (decide (s.props "key" = some (.str k₂)) && decide (d.props "key" = some (.str k₁)))) := by
  simp only [holds, linkCond, Option.all_some, Expr.eval, isTrue_or, isTrue_and, h₁, h₂, isTrue_eq]
  rfl

lemma answer_getSceneLink (k₁ k₂ : String) (g : Graph R) :
    db fn (getSceneLinkQuery k₁ k₂) g =
      (.rows ((linksBetween g k₁ k₂).map fun t => [.rel t.2.1]), g) := by
  have hparse : parse (lex (getSceneLinkQuery (R := R) k₁ k₂).text) =
      some ⟨[.edge ⟨"scn", some "Scene", []⟩ ⟨"trans", "TRANSFORM", []⟩
        ⟨"scn2", some "Scene", []⟩], some linkCond, .none, ["trans"], none⟩ := by
    dsimp only [getSceneLinkQuery]
    rewrite [lex_spelled]
    decide +kernel
  have h₁ : (getSceneLinkQuery (R := R) k₁ k₂).params.lookup "inp_key1" = some (.str k₁) := rfl
  have h₂ : (getSceneLinkQuery (R := R) k₁ k₂).params.lookup "inp_key2" = some (.str k₂) := rfl
  rw [db, answer_eq fn hparse _ ["inp_key1", "inp_key2"] rfl (by decide) rfl]
  simp only [Update.apply, matchRows_edge_where, fits_label, rel_fits_type, List.filter_map,
    Function.comp_def, holds_linkCond fn h₁ h₂, List.filter_filter, List.map_map, linksBetween]
  clear hparse h₁ h₂
  congr 3
  refine List.filter_congr fun t _ => ?_
  rw [Bool.eq_iff_iff]
  simp only [Bool.and_eq_true, Bool.or_eq_true, decide_eq_true_eq]
  simp only [IsSceneLink, HasKey]
  tauto

omit [LinearOrder R] in
/-- A relationship with a transform from each of some nodes to each of others. -/
lemma createAll_transform (params : Params R) {t : Transform R}
    (hparams : ∀ p ∈ transformEntries.map Prod.snd,
      params.lookup p = (transformParams env.glm t).lookup p)
    {v w : String} (hvw : w ≠ v) {g : Graph R} {ns ms : List (Node R)}
    (hns : ∀ n ∈ ns, n ∈ g.nodes) (hms : ∀ m ∈ ms, m ∈ g.nodes) :
    let res := createAll params
      (.edge ⟨v, none, []⟩ ⟨"trans", "TRANSFORM", transformEntries⟩ ⟨w, none, []⟩)
      (ns.flatMap fun n => ms.map fun m => [(v, Binding.node n), (w, .node m)]) g
    ∃ ts, Linked "TRANSFORM" (linkProps env.glm t) (ns.flatMap fun n => ms.map fun m => (n, m)) g
        res.2 ts ∧
      res.1 = ts.map fun t => [(v, .node t.1), (w, .node t.2.2), ("trans", .rel t.2.1)] := by
  intro res
  have hmem : ∀ p ∈ ns.flatMap fun n => ms.map fun m => (n, m),
      p.1 ∈ g.nodes ∧ p.2 ∈ g.nodes := by
    intro p hp
    obtain ⟨n, hn, hp⟩ := List.mem_flatMap.mp hp
    obtain ⟨m, hm, rfl⟩ := List.mem_map.mp hp
    exact ⟨hns n hn, hms m hm⟩
  have hlink : mkProps params transformEntries = linkProps env.glm t := mkProps_congr hparams
  obtain ⟨ts, hts, hrows⟩ := createAll_link params ⟨v, none, []⟩ "trans" "TRANSFORM"
    transformEntries ⟨w, none, []⟩ hvw _ hmem
  have hrow : (ns.flatMap fun n => ms.map fun m => [(v, Binding.node n), (w, .node m)]) =
      (ns.flatMap fun n => ms.map fun m => (n, m)).map fun p =>
        [(v, .node p.1), (w, .node p.2)] := by
    simp only [List.map_flatMap, List.map_map]
    rfl
  rw [hlink, ← hrow] at hts
  rw [← hrow] at hrows
  exact ⟨ts, hts, hrows⟩

/-- Linking two scenes makes a relationship from every scene with the one key to
every scene with the other. -/
lemma answer_createLink (k₁ k₂ : String) (t : Transform R) (g : Graph R) :
    ∃ ts, Linked "TRANSFORM" (linkProps env.glm t)
        ((scenes g k₁).flatMap fun n => (scenes g k₂).map fun m => (n, m)) g
        (db fn (createSceneLinkQuery env k₁ k₂ t) g).2 ts ∧
      (db fn (createSceneLinkQuery env k₁ k₂ t) g).1 =
        .rows (ts.map fun t => [.node t.1, .rel t.2.1, .node t.2.2]) := by
  have hparse : parse (lex (createSceneLinkQuery env k₁ k₂ t).text) =
      some ⟨[.node (scnPat "scn" "inp_key1"), .node (scnPat "scn2" "inp_key2")], none,
        .create (.edge ⟨"scn", none, []⟩ ⟨"trans", "TRANSFORM", transformEntries⟩
          ⟨"scn2", none, []⟩), ["scn", "trans", "scn2"], none⟩ := by
    dsimp only [createSceneLinkQuery]
    rewrite [lex_spelled]
    decide +kernel
  set q := createSceneLinkQuery env k₁ k₂ t
  have h₁ : q.params.lookup "inp_key1" = some (.str k₁) := rfl
  have h₂ : q.params.lookup "inp_key2" = some (.str k₂) := rfl
  have hanswer := answer_eq fn hparse q.params ["inp_key1", "inp_key2", "loc_x", "loc_y",
    "loc_z", "rot_x", "rot_y", "rot_z"] rfl (by decide) rfl g
  obtain ⟨ts, hts, hrows⟩ := createAll_transform env q.params (t := t)
    (forall_transformEntries.mpr ⟨rfl, rfl, rfl, rfl, rfl, rfl⟩)
    (show "scn2" ≠ "scn" by decide) (fun n (hn : n ∈ scenes g k₁) => (mem_scenes.mp hn).1)
    (fun n (hn : n ∈ scenes g k₂) => (mem_scenes.mp hn).1)
  simp only [Update.apply, matchRows_pair, scnPat, fits_hasKey h₁, fits_hasKey h₂] at hanswer
  rw [← scenes, ← scenes] at hanswer
  refine ⟨ts, ?_, ?_⟩
  · rw [db, hanswer]
    exact hts
  · rw [db, hanswer, hrows, List.map_map]
    rfl

/-- A registration of a device that exists makes a relationship from every scene with the
one key to every device with the other. -/
lemma answer_registerExisting (dk sk : String) (t : Transform R) (conn host : String) (port : ℤ)
    (g : Graph R) :
    ∃ ts, Linked "TRANSFORM" (linkProps env.glm t)
        ((scenes g sk).flatMap fun n => (devices g dk).map fun m => (n, m)) g
        (db fn (registerDeviceQuery env dk sk t true conn host port) g).2 ts ∧
      (db fn (registerDeviceQuery env dk sk t true conn host port) g).1 =
        .rows (ts.map fun t => [.node t.1, .rel t.2.1, .node t.2.2]) := by
  have hparse : parse (lex (registerDeviceQuery env dk sk t true conn host port).text) =
      some ⟨[.node (scnPat "scn" "inp_key"), .node udPat], none,
        .create (.edge ⟨"scn", none, []⟩ ⟨"trans", "TRANSFORM", transformEntries⟩
          ⟨"ud", none, []⟩), ["scn", "trans", "ud"], none⟩ := by
    dsimp only [registerDeviceQuery]
    rewrite [if_pos rfl, lex_spelled]
    decide +kernel
  set q := registerDeviceQuery env dk sk t true conn host port
  have hs : q.params.lookup "inp_key" = some (.str sk) := rfl
  have hd : q.params.lookup "inp_ud_key" = some (.str dk) := rfl
  have hanswer := answer_eq fn hparse q.params ["inp_key", "inp_ud_key", "loc_x", "loc_y",
    "loc_z", "rot_x", "rot_y", "rot_z", "ud_conn_str", "ud_host", "ud_port"] rfl
    (by decide) rfl g
  obtain ⟨ts, hts, hrows⟩ := createAll_transform env q.params (t := t)
    (forall_transformEntries.mpr ⟨rfl, rfl, rfl, rfl, rfl, rfl⟩)
    (show "ud" ≠ "scn" by decide) (fun n (hn : n ∈ scenes g sk) => (mem_scenes.mp hn).1)
    (fun n (hn : n ∈ devices g dk) => (mem_devices.mp hn).1)
  simp only [Update.apply, matchRows_pair, scnPat, udPat, fits_hasKey hs, fits_hasKey hd]
    at hanswer
  rw [← scenes, ← devices] at hanswer
  refine ⟨ts, ?_, ?_⟩
  · rw [db, hanswer]
    exact hts
  · rw [db, hanswer, hrows, List.map_map]
    rfl

/-- Correcting a link is refused: the statement is not read. -/
lemma answer_updateLink (k₁ k₂ : String) (t : Transform R) (g : Graph R) :
    db fn (updateSceneLinkQuery env k₁ k₂ t) g = (.throw "Invalid input", g) := by
  have hparse : parse (lex (updateSceneLinkQuery env k₁ k₂ t).text) = none := by
    dsimp only [updateSceneLinkQuery]
    rewrite [lex_spelled]
    decide +kernel
  exact answer_invalid fn hparse _ g

lemma answer_device (dk : String) (g : Graph R) :
    db fn (deviceQuery dk) g = (.rows ((devices g dk).map fun n => [.node n]), g) := by
  have hparse : parse (lex (deviceQuery (R := R) dk).text) =
      some ⟨[.node ⟨"ud", some "UserDevice", [("key", "inp_key")]⟩], none, .none, ["ud"],
        none⟩ := by
    dsimp only [deviceQuery]
    rewrite [lex_spelled]
    rfl
  have hkey : (deviceQuery (R := R) dk).params.lookup "inp_key" = some (.str dk) := rfl
  rw [db, answer_eq fn hparse _ ["inp_key"] rfl (by decide) rfl]
  simp only [Update.apply, matchRows_node, fits_hasKey hkey, devices, List.map_map]
  rfl

/-- Deleting a scene deletes every scene with the key. -/
lemma answer_deleteScene {k : String} (hk : k ≠ "") (g : Graph R) :
    db fn (deleteSceneQuery k) g =
      (.rows ((scenes g k).map fun n => [.node n]),
        g.detachDelete ((scenes g k).map Node.id)) := by
  have hparse : parse (lex (deleteSceneQuery (R := R) k).text) =
      some ⟨[.node (scnPat "scn" "inp_key")], none, .detachDelete "scn", ["scn"], none⟩ := by
    dsimp only [deleteSceneQuery]
    rewrite [lex_spelled]
    rfl
  have hparams : (deleteSceneQuery (R := R) k).params = [("inp_key", .str k)] := by
    simp [deleteSceneQuery, generateSceneQueryParameters, generateQueryParameters, optParam, hk]
  have hkey : (deleteSceneQuery (R := R) k).params.lookup "inp_key" = some (.str k) := by
    rw [hparams]
    rfl
  rw [db, answer_eq fn hparse _ ["inp_key"] (by rw [hparams]; rfl) (by decide) rfl]
  have hid : (nodeId (R := R) "scn" ∘ fun n : Node R => [("scn", .node n)]) =
      some ∘ Node.id := rfl
  simp only [Update.apply, matchRows_node, scnPat, fits_hasKey hkey, List.map_map,
    List.filterMap_map, hid, List.filterMap_eq_map, scenes]
  rfl

end Answers

end CrazyIvan
