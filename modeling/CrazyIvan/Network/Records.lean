import CrazyIvan.Network.Interleaving
import CrazyIvan.Network.Paths
import CrazyIvan.Network.Types

/-!
What the program stores, it can read back.

* `edgeTransform_of_stores`: the transform of an edge that stores one.
* `Legible`: the properties of a scene that can be read; `legible_sceneProps`:
  those of a scene the program creates can.
* `Recorded`: a graph with single keys, legible scenes and transforms on its
  relationships; creations and alignments keep it.
* `readRegistrations_recorded`: the registrations of a device as they are read
  from such a graph.
-/

namespace CrazyIvan

open Cypher Resumption

section Records

variable {R : Type}

/-! ### Stored transforms -/

section Stored

variable [CommRing R]

lemma stores_linkProps (glm : Glm R) (t : Transform R) : Stores glm t (linkProps glm t) :=
  fun _ _ => rfl

lemma isSome_linkProps (glm : Glm R) (t : Transform R) {name : String}
    (hname : name ∈ transformEntries.map Prod.fst) : (linkProps glm t name).isSome = true := by
  simp only [transformEntries, List.map_cons, List.map_nil, List.mem_cons, List.not_mem_nil,
    or_false] at hname
  rcases hname with rfl | rfl | rfl | rfl | rfl | rfl <;> rfl

lemma stores_storeTransform (glm : Glm R) (t : Transform R) (ps : Props R) :
    Stores glm t (storeTransform glm t ps) := by
  intro name hname
  obtain ⟨v, hv⟩ := Option.isSome_iff_exists.mp (isSome_linkProps glm t hname)
  rw [storeTransform, hv, Option.some_or]

variable (env : Env R)

/-- The transform of an edge that stores one. -/
lemma edgeTransform_of_stores {t : Transform R} {ps : Props R} (h : Stores env.glm t ps)
    (forward : Bool) :
    edgeTransform env ps forward
      = .ok (if forward then t.reread env.glm else (t.reread env.glm).invert env.glm) := by
  rw [← edgeTransform_linkProps env t forward, edgeTransform, edgeTransform]
  simp only [h "translation_x" (by decide), h "translation_y" (by decide),
    h "translation_z" (by decide), h "rotation_x" (by decide), h "rotation_y" (by decide),
    h "rotation_z" (by decide)]

/-- A device that is placed by the values of such an edge. -/
lemma placeDevice_of_stores {t : Transform R} {r : Rel R} (h : Stores env.glm t r.props)
    (key : String) :
    (edgeValues env (.rel r) >>= fun values =>
        placeDevice env { key, trans := some Transform.new } values.1 values.2)
      = .ok { key, trans := some (t.reread env.glm) } := by
  simp only [edgeValues, readElement, h "translation_x" (by decide),
    h "translation_y" (by decide), h "translation_z" (by decide), h "rotation_x" (by decide),
    h "rotation_y" (by decide), h "rotation_z" (by decide)]
  rfl

lemma exists_edgeValues_of_stores {t : Transform R} {r : Rel R}
    (h : Stores env.glm t r.props) : ∃ values, edgeValues env (.rel r) = .ok values := by
  have hplace := placeDevice_of_stores env h ""
  cases hvalues : edgeValues env (.rel r) with
  | error e => rw [hvalues] at hplace; cases hplace
  | ok values => exact ⟨values, rfl⟩

end Stored

/-! ### Legible scenes -/

/-- The properties of a scene can be read, and it has a key. -/
def Legible [CommRing R] (env : Env R) (ps : Props R) : Prop :=
  ∃ scn, assignSceneProperties env ps {} = .ok scn ∧ ps "key" = some (.str scn.key) ∧
    scn.devices = []

section Created

variable [Field R] [LinearOrder R]

/-- A scene the program creates is legible. -/
lemma legible_sceneProps (env : Env R) {newId : String} (hnew : newId ≠ "")
    (scn : SceneDocument R) : Legible env (sceneProps newId scn) := by
  obtain ⟨read, hread, hkey, hdevs⟩ :=
    (typed_sceneProps newId scn).scene.exists_assignSceneProperties env
  rw [readElement, sceneProps_key hnew] at hkey
  obtain rfl : newId = read.key := Except.ok.inj hkey
  exact ⟨read, hread, sceneProps_key hnew scn, hdevs⟩

end Created

/-! ### Recorded graphs -/

variable [Field R] [LinearOrder R]

/-- The keys are single, the scenes legible, and every relationship stores a
transform and has no key. -/
structure Recorded (env : Env R) (g : Graph R) : Prop where
  keys : SingleKeys g
  scene : ∀ n ∈ g.nodes, n.label = "Scene" → Legible env n.props
  rel : ∀ t ∈ g.triples, t.2.1.props "key" = none ∧ ∃ T, Stores env.glm T t.2.1.props

section Mapped

variable (g : Graph R) (f : Rel R → Props R)

/-- A triple whose relationship has other properties. -/
def withProps (t : Node R × Rel R × Node R) : Node R × Rel R × Node R :=
  (t.1, { t.2.1 with props := f t.2.1 }, t.2.2)

omit [Field R] in
lemma registrationsTo_mapRels (sk dk : String) :
    registrationsTo (g.mapRels f) sk dk = (registrationsTo g sk dk).map (withProps f) := by
  rw [registrationsTo, Graph.triples_mapRels, List.filter_map]
  rfl

/-- The transform of the registrations is stored, once it is set. -/
lemma stores_setRegistrations {glm : Glm R} {g : Graph R} {dk sk : String} {t : Transform R}
    {r : Node R × Rel R × Node R}
    (hr : r ∈ registrationsTo (setRegistrations glm g dk sk t) sk dk) :
    Stores glm t r.2.1.props := by
  rw [setRegistrations, registrationsTo_mapRels] at hr
  obtain ⟨r₀, hr₀, rfl⟩ := List.mem_map.mp hr
  have hmem : r₀.2.1.id ∈ (registrationsTo g sk dk).map fun t => t.2.1.id :=
    List.mem_map_of_mem (f := fun t => t.2.1.id) hr₀
  dsimp only [withProps]
  rw [if_pos hmem]
  exact stores_storeTransform glm t _

omit [Field R] in
lemma linksBetween_mapRels (k₁ k₂ : String) :
    linksBetween (g.mapRels f) k₁ k₂ = (linksBetween g k₁ k₂).map (withProps f) := by
  rw [linksBetween, Graph.triples_mapRels, List.filter_map]
  rfl

end Mapped

variable {env : Env R} {g g' : Graph R}

omit [Field R] in
/-- Between scenes nothing is registered. -/
lemma registrationsTo_linked {rprops : Props R} {k₁ k₂ : String}
    {ts : List (Node R × Rel R × Node R)}
    (hts : Linked "TRANSFORM" rprops
      ((scenes g k₁).flatMap fun n => (scenes g k₂).map fun m => (n, m)) g g' ts)
    (sk dk : String) : registrationsTo g' sk dk = registrationsTo g sk dk := by
  rw [registrationsTo, hts.triples, List.filter_append, registrationsTo]
  refine List.append_right_eq_self.mpr (List.filter_eq_nil_iff.mpr fun t ht => ?_)
  have hscene : t.2.2.label = "Scene" := (mem_scenes.mp (hts.mem_product ht).2).2.1
  rw [decide_eq_true_eq]
  rintro ⟨-, -, hdevice, -⟩
  rw [hscene] at hdevice
  exact absurd hdevice (by decide)

namespace Recorded

lemma empty : Recorded env Graph.empty where
  keys := .empty
  scene _ hn := nomatch hn
  rel _ ht := nomatch ht

lemma addScene (h : Recorded env g) {newId : String} (hnew : newId ≠ "") (scn : SceneDocument R)
    (hfree : scenes g newId = []) :
    Recorded env (g.addNode "Scene" (sceneProps newId scn)) where
  keys := (singleKeys_addScene (sceneProps_key hnew scn)).mpr ⟨h.keys, hfree⟩
  scene n hn hlabel := by
    rw [Graph.nodes_addNode] at hn
    rcases List.mem_append.mp hn with hn | hn
    · exact h.scene n hn hlabel
    · rw [List.mem_singleton.mp hn]
      exact legible_sceneProps env hnew scn
  rel t ht := h.rel t (by rwa [Graph.triples_addNode] at ht)

lemma attach (h : Recorded env g) {dk sk conn host : String} {port : ℤ} {t : Transform R}
    {ts : List (Node R × Rel R × Node R)}
    (hts : Attached "UserDevice" "TRANSFORM" (deviceProps dk conn host port)
      (linkProps env.glm t) (scenes g sk) g g' ts)
    (hclear : scenes g sk = [] ∨ registrationsTo g sk dk = []) : Recorded env g' where
  keys := (singleKeys_attached hts).mpr ⟨h.keys, hclear⟩
  scene n hn hlabel := by
    rw [hts.nodes] at hn
    rcases List.mem_append.mp hn with hn | hn
    · exact h.scene n hn hlabel
    · obtain ⟨t, ht, rfl⟩ := List.mem_map.mp hn
      rw [(hts.dst t ht).1] at hlabel
      exact absurd hlabel (by decide)
  rel t ht := by
    rw [hts.triples] at ht
    rcases List.mem_append.mp ht with ht | ht
    · exact h.rel t ht
    · rw [(hts.rel t ht).2]
      exact ⟨rfl, _, stores_linkProps env.glm _⟩

lemma link (h : Recorded env g) {k₁ k₂ : String} {t : Transform R}
    {ts : List (Node R × Rel R × Node R)}
    (hts : Linked "TRANSFORM" (linkProps env.glm t)
      ((scenes g k₁).flatMap fun n => (scenes g k₂).map fun m => (n, m)) g g' ts) :
    Recorded env g' where
  keys := {
    scenes := fun k => by
      rw [scenes, hts.nodes]
      exact h.keys.scenes k
    registrations := fun sk dk => by
      rw [registrationsTo_linked hts]
      exact h.keys.registrations sk dk }
  scene n hn := h.scene n (hts.nodes ▸ hn)
  rel t ht := by
    rw [hts.triples] at ht
    rcases List.mem_append.mp ht with ht | ht
    · exact h.rel t ht
    · rw [(hts.rel t ht).2]
      exact ⟨rfl, _, stores_linkProps env.glm _⟩

lemma setRegistrations (h : Recorded env g) (dk sk : String) (t : Transform R) :
    Recorded env (setRegistrations env.glm g dk sk t) where
  keys := {
    scenes := h.keys.scenes
    registrations := fun sk' dk' => by
      rw [CrazyIvan.setRegistrations, registrationsTo_mapRels, List.length_map]
      exact h.keys.registrations sk' dk' }
  scene := h.scene
  rel u hu := by
    rw [CrazyIvan.setRegistrations, Graph.triples_mapRels] at hu
    obtain ⟨u₀, hu₀, rfl⟩ := List.mem_map.mp hu
    dsimp only
    split
    · exact ⟨(h.rel u₀ hu₀).1, t, stores_storeTransform env.glm t _⟩
    · exact h.rel u₀ hu₀

/-- Alignments keep the records. -/
lemma realignment (h : Recorded env g) (hg' : Realignment env g g') : Recorded env g' := by
  cases hg' with
  | none => exact h
  | link hts => exact h.link hts
  | setRegistrations dk sk t => exact h.setRegistrations dk sk t

end Recorded

/-! ### Registrations as they are read -/

/-- A registration of a device reads as a scene with its key, and the device with the stored
transform. -/
structure ReadsAs (env : Env R) (dk : String) (t : Node R × Rel R × Node R)
    (scn : SceneDocument R) : Prop where
  key : readElement env.getStringElement t.1.props "key" "" = .ok scn.key
  device : ∃ u, scn.devices = [{ key := dk, trans := some u }] ∧
    ∀ T, Stores env.glm T t.2.1.props → u = T.reread env.glm

omit [LinearOrder R] in
/-- A row is read as its scene with one device, placed by the values of the edge. -/
lemma exists_registrationRow {ps : Props R} {r : Rel R} {d : Node R} {dk : String}
    {scn : SceneDocument R} {values : (Fin 3 → R) × (Fin 3 → R)}
    (hscn : assignSceneProperties env ps {} = .ok scn)
    (hvalues : edgeValues env (.rel r) = .ok values) (hdk : d.props "key" = some (.str dk)) :
    ∃ u, registrationRow env ps (.rel r) (.node d)
        = .ok (scn.addDevice { key := dk, trans := some u }) ∧
      ∀ T, Stores env.glm T r.props → u = T.reread env.glm := by
  obtain ⟨u, hu⟩ : ∃ u, placeDevice env { key := dk, trans := some Transform.new } values.1
      values.2 = .ok { key := dk, trans := some u } := ⟨_, rfl⟩
  refine ⟨u, ?_, fun T hT => ?_⟩
  · rw [registrationRow, hscn, hvalues]
    simp only [hdk]
    show (placeDevice env { key := dk, trans := some Transform.new } values.1 values.2 >>=
      fun newDev => pure (scn.addDevice newDev)) = _
    rw [hu]
    rfl
  · have hplace := placeDevice_of_stores env hT dk
    rw [hvalues] at hplace
    have heq : (.ok { key := dk, trans := some u } : Except Fail (UserDevice R)) =
        .ok { key := dk, trans := some (T.reread env.glm) } := hu.symm.trans hplace
    exact Option.some.inj (congrArg UserDevice.trans (Except.ok.inj heq))

omit [LinearOrder R] in
/-- The rows of some registrations, where each of them is read. The induction is on the
registrations. -/
lemma exists_registrationRows {P : Node R × Rel R × Node R → SceneDocument R → Prop}
    {ts : List (Node R × Rel R × Node R)}
    (h : ∀ t ∈ ts, ∃ scn, registrationRow env t.1.props (.rel t.2.1) (.node t.2.2) = .ok scn ∧
      P t scn) :
    ∃ scns, registrationRows env
        (ts.map fun t => [Binding.node t.1, .rel t.2.1, .node t.2.2]) = .ok scns ∧
      List.Forall₂ P ts scns := by
  induction ts with
  | nil => exact ⟨[], rfl, .nil⟩
  | cons t ts ih =>
      obtain ⟨scn, hscn, hreads⟩ := h t (by simp)
      obtain ⟨scns, hscns, hall⟩ := ih fun t ht => h t (by simp [ht])
      refine ⟨scn :: scns, ?_, .cons hreads hall⟩
      rw [List.map_cons, registrationRows]
      simp only [elementProps, hscn, hscns]
      rfl

/-- The registrations of a device as they are read, where their scenes and their edges can be
read. -/
lemma exists_readRegistrations {dk : String}
    (hscene : ∀ t ∈ registrations g dk, ∃ scn, assignSceneProperties env t.1.props {} = .ok scn ∧
      readElement env.getStringElement t.1.props "key" "" = .ok scn.key ∧ scn.devices = [])
    (hedge : ∀ t ∈ registrations g dk, ∃ values, edgeValues env (.rel t.2.1) = .ok values) :
    ∃ scns, readRegistrations env (.rows ((registrations g dk).map fun t =>
          [.node t.1, .rel t.2.1, .node t.2.2]))
        = .ok (if scns.length = 0 then none else some { scenes := scns }) ∧
      List.Forall₂ (ReadsAs env dk) (registrations g dk) scns := by
  have hrow : ∀ t ∈ registrations g dk, ∃ scn,
      registrationRow env t.1.props (.rel t.2.1) (.node t.2.2) = .ok scn ∧
        ReadsAs env dk t scn := by
    intro t ht
    obtain ⟨-, hreg⟩ := List.mem_filter.mp ht
    obtain ⟨-, -, hdk⟩ := of_decide_eq_true hreg
    obtain ⟨scn, hscn, hkey, hdevs⟩ := hscene t ht
    obtain ⟨values, hvalues⟩ := hedge t ht
    obtain ⟨u, hrow, hu⟩ := exists_registrationRow hscn hvalues hdk
    refine ⟨_, hrow, hkey, u, ?_, hu⟩
    rw [SceneDocument.addDevice, hdevs, List.nil_append]
  obtain ⟨scns, hscns, hall⟩ := exists_registrationRows hrow
  refine ⟨scns, ?_, hall⟩
  rw [readRegistrations, hscns]
  rfl

/-- From properties of their types. -/
lemma readRegistrations_wellTyped (h : WellTyped g) (dk : String) :
    ∃ scns, readRegistrations env (.rows ((registrations g dk).map fun t =>
          [.node t.1, .rel t.2.1, .node t.2.2]))
        = .ok (if scns.length = 0 then none else some { scenes := scns }) ∧
      List.Forall₂ (ReadsAs env dk) (registrations g dk) scns := by
  have htriple : ∀ t ∈ registrations g dk, t ∈ g.triples := fun _ ht => (List.mem_filter.mp ht).1
  exact exists_readRegistrations
    (fun t ht =>
      (h.node t.1 (g.src_mem_of_triple (htriple t ht))).scene.exists_assignSceneProperties env)
    fun t ht => (h.rel t (htriple t ht)).transform.exists_edgeValues env

/-- From a recorded graph. -/
theorem readRegistrations_recorded (h : Recorded env g) (dk : String) :
    ∃ scns, readRegistrations env (.rows ((registrations g dk).map fun t =>
          [.node t.1, .rel t.2.1, .node t.2.2]))
        = .ok (if scns.length = 0 then none else some { scenes := scns }) ∧
      List.Forall₂ (ReadsAs env dk) (registrations g dk) scns := by
  refine exists_readRegistrations (fun t ht => ?_) fun t ht => ?_
  · obtain ⟨htriple, hreg⟩ := List.mem_filter.mp ht
    obtain ⟨⟨hlabel, -, -⟩, -, -⟩ := of_decide_eq_true hreg
    obtain ⟨scn, hscn, hkey, hdevs⟩ := h.scene t.1 (g.src_mem_of_triple htriple) hlabel
    exact ⟨scn, hscn, by rw [readElement, hkey]; rfl, hdevs⟩
  · obtain ⟨-, T, hT⟩ := h.rel t (List.mem_filter.mp ht).1
    exact exists_edgeValues_of_stores env hT

/-- There the key that is read is the stored one. -/
lemma ReadsAs.hasKey {dk : String} {t : Node R × Rel R × Node R} {scn : SceneDocument R}
    (hread : ReadsAs env dk t scn) (h : Recorded env g) (ht : t.1 ∈ g.nodes)
    (hlabel : t.1.label = "Scene") : HasKey "Scene" scn.key t.1 := by
  obtain ⟨stored, -, hkey, -⟩ := h.scene t.1 ht hlabel
  have hread := hread.key
  rw [readElement, hkey] at hread
  have heq : stored.key = scn.key := Except.ok.inj hread
  exact ⟨hlabel, heq ▸ hkey⟩

end Records

end CrazyIvan
