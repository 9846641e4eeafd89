import CrazyIvan.Network.Records
import CrazyIvan.Network.Redirection

/-!
A transform that is stored comes back.

* `run_getRegistrations`: the registrations of a device, read from typed properties.
* `ReturnsFor`, `ReturnsOnly`: `get_registrations` returns a transform for a scene and a
  device, and no other.
* `StepReads`: a step along an edge reads as a transform.
* `returns_register`, `returns_update`, `stepReads_link`: after a registration, after an
  update and after a link.
* `stored_transforms_return`: all three, on the graph of any run.
-/

namespace CrazyIvan

open Cypher Resumption

section StoredTransforms

variable {R : Type} [Field R] [LinearOrder R] (fn : String → R → R) {env : Env R}

/-! ### Reading registrations -/

lemma exists_of_forall₂ {α β : Type} {r : α → β → Prop} {l : List α} {l' : List β}
    (h : List.Forall₂ r l l') {x : α} (hx : x ∈ l) : ∃ y ∈ l', r x y := by
  obtain ⟨i, hi, rfl⟩ := List.getElem_of_mem hx
  exact ⟨_, List.getElem_mem (h.length_eq ▸ hi), (List.forall₂_iff_get.mp h).2 i hi _⟩

variable (env) in
/-- The registrations of a device, as they are read. -/
lemma run_getRegistrations {g : Graph R} (hg : WellTyped g) (dk : String) :
    ∃ scns, (getRegistrations env dk).run (db fn) g
        = (.ok (if scns.length = 0 then none else some { scenes := scns }), g) ∧
      List.Forall₂ (ReadsAs env dk) (registrations g dk) scns := by
  obtain ⟨scns, hscns, hall⟩ := @readRegistrations_wellTyped R _ _ env g hg dk
  exact ⟨scns, by rw [getRegistrations, run_askAndRead, answer_getRegistrations, hscns], hall⟩

/-- A scene is returned with one device, whose transform reads like another. -/
structure Returned (sk dk : String) (T : Transform R) (scn : SceneDocument R) : Prop where
  key : scn.key = sk
  device : ∃ u, scn.devices = [{ key := dk, trans := some u }] ∧ Same u T

variable (env) in
/-- `get_registrations` of the device returns the transform for the scene. -/
def ReturnsFor (g : Graph R) (sk dk : String) (T : Transform R) : Prop :=
  ∃ scns, (getRegistrations env dk).run (db fn) g = (.ok (some { scenes := scns }), g) ∧
    ∃ scn ∈ scns, Returned sk dk T scn

variable (env) in
/-- Whatever `get_registrations` of the device returns for the scene is the transform. -/
def ReturnsOnly (g : Graph R) (sk dk : String) (T : Transform R) : Prop :=
  ∀ scns, (getRegistrations env dk).run (db fn) g = (.ok (some { scenes := scns }), g) →
    ∀ scn ∈ scns, scn.key = sk → Returned sk dk T scn

section Registered

variable {g : Graph R} {sk dk : String} {T : Transform R}

omit [LinearOrder R] in
lemma ReadsAs.returned (hglm : env.glm.Exact) (hT : T.Built env.glm)
    {t : Node R × Rel R × Node R} {scn : SceneDocument R} (h : ReadsAs env dk t scn)
    (hstores : Stores env.glm T t.2.1.props) : Returned scn.key dk T scn where
  key := rfl
  device := by
    obtain ⟨u, hu, hread⟩ := h.device
    exact ⟨u, hu, hread T hstores ▸ Same.reread hglm hT⟩

/-- A registration that stores the transform. -/
lemma returnsFor_of_stores (hglm : env.glm.Exact) (hT : T.Built env.glm) (hg : WellTyped g)
    {t : Node R × Rel R × Node R} (ht : t ∈ registrationsTo g sk dk)
    (hstores : Stores env.glm T t.2.1.props) : ReturnsFor fn env g sk dk T := by
  obtain ⟨htriple, hsk, htype, hdk⟩ := mem_registrationsTo.mp ht
  have hreg : t ∈ registrations g dk :=
    List.mem_filter.mpr ⟨htriple, decide_eq_true ⟨⟨hsk.1, htype, hdk.1⟩, hdk⟩⟩
  obtain ⟨scns, hrun, hall⟩ := run_getRegistrations fn env hg dk
  obtain ⟨scn, hscn, hread⟩ := exists_of_forall₂ hall hreg
  have hkey : scn.key = sk := by
    have hkey := hread.key
    rw [readElement, hsk.2] at hkey
    exact (Except.ok.inj hkey).symm
  refine ⟨scns, ?_, scn, hscn, hkey ▸ hread.returned hglm hT hstores⟩
  rw [hrun, if_neg (List.length_pos_of_mem hscn).ne']

/-- All registrations to the scene store the transform. -/
lemma returnsOnly_of_stores (hglm : env.glm.Exact) (hT : T.Built env.glm) (hg : WellTyped g)
    (hsk : sk ≠ "") (hstores : ∀ t ∈ registrationsTo g sk dk, Stores env.glm T t.2.1.props) :
    ReturnsOnly fn env g sk dk T := by
  intro scns hrun scn hscn hkey
  obtain ⟨scns', hrun', hall⟩ := run_getRegistrations fn env hg dk
  obtain rfl : scns' = scns := by
    have heq := Except.ok.inj (congrArg Prod.fst (hrun'.symm.trans hrun))
    split at heq
    · cases heq
    · exact congrArg SceneList.scenes (Option.some.inj heq)
  obtain ⟨t, ht, hread⟩ := exists_of_forall₂ hall.flip hscn
  obtain ⟨htriple, hreg⟩ := List.mem_filter.mp ht
  obtain ⟨⟨hlabel, htype, -⟩, hdk⟩ := of_decide_eq_true hreg
  -- A key that is not the default is stored.
  have hstored : t.1.props "key" = some (.str sk) := by
    have hread := hread.key
    rw [hkey, readElement] at hread
    split at hread
    · next v hv =>
        rw [hv]
        cases v <;> cases hread
        rfl
    · exact absurd (Except.ok.inj hread).symm hsk
  have hmem : t ∈ registrationsTo g sk dk :=
    mem_registrationsTo.mpr ⟨htriple, ⟨hlabel, hstored⟩, htype, hdk⟩
  exact hkey ▸ hread.returned hglm hT (hstores t hmem)

end Registered

/-! ### Writing them -/

section Written

variable {g : Graph R} {sk dk : String} {T : Transform R}

variable (env) in
/-- What a registration adds: relationships with the transform. -/
lemma exists_registered (hg : WellTyped g) (hscene : scenes g sk ≠ []) {deviceExists : Bool}
    (hdevice : deviceExists = true → devices g dk ≠ []) (T : Transform R) (conn host : String)
    (port : ℤ) :
    let g' := (db fn (registerDeviceQuery env dk sk T deviceExists conn host port) g).2
    WellTyped g' ∧ ∃ ts, ts ≠ [] ∧ registrationsTo g' sk dk = registrationsTo g sk dk ++ ts ∧
      ∀ t ∈ ts, t.2.1.props = linkProps env.glm T := by
  intro g'
  cases deviceExists with
  | false =>
      obtain ⟨ts, hts, -⟩ := answer_register fn env dk sk T conn host port g
      exact ⟨hg.attached (typed_deviceProps _ _ _ _) (typed_linkProps _ _) hts, ts,
        (attached_ne_nil hts).mpr hscene, registrationsTo_attached hts,
        fun t ht => (hts.rel t ht).2⟩
  | true =>
      obtain ⟨ts, hts, -⟩ := answer_registerExisting fn env dk sk T conn host port g
      refine ⟨hg.linked (typed_linkProps _ _) hts, ts,
        hts.ne_nil_of_product hscene (hdevice rfl), ?_, fun t ht => (hts.rel t ht).2⟩
      have hall : ∀ t ∈ ts, HasKey "Scene" sk t.1 ∧ t.2.1.type = "TRANSFORM" ∧
          HasKey "UserDevice" dk t.2.2 := fun t ht =>
        ⟨(mem_scenes.mp (hts.mem_product ht).1).2, (hts.rel t ht).1,
          (mem_devices.mp (hts.mem_product ht).2).2⟩
      rw [registrationsTo, hts.triples, List.filter_append, registrationsTo,
        List.filter_eq_self.mpr fun t ht => decide_eq_true (hall t ht)]

/-- A registration stores the transform, and `get_registrations` returns it. -/
lemma returns_register (hglm : env.glm.Exact) (hT : T.Built env.glm) (hg : WellTyped g)
    (hscene : scenes g sk ≠ []) {deviceExists : Bool}
    (hdevice : deviceExists = true → devices g dk ≠ []) (conn host : String) (port : ℤ) :
    ∃ g', (registerDeviceToScene env dk sk T deviceExists conn host port).run (db fn) g
        = (.ok (), g') ∧ ReturnsFor fn env g' sk dk T ∧
      (sk ≠ "" → registrationsTo g sk dk = [] → ReturnsOnly fn env g' sk dk T) := by
  obtain ⟨hg', ts, hne, hregs, hprops⟩ :=
    exists_registered fn env hg hscene hdevice T conn host port
  have hstores : ∀ t ∈ ts, Stores env.glm T t.2.1.props := fun t ht => by
    rw [hprops t ht]
    exact stores_linkProps env.glm T
  obtain ⟨t, ht⟩ := List.exists_mem_of_ne_nil ts hne
  refine ⟨_, rfl, ?_, fun hsk hnone => ?_⟩
  · refine returnsFor_of_stores fn hglm hT hg' (t := t) ?_ (hstores t ht)
    rw [hregs]
    exact List.mem_append_right _ ht
  · refine returnsOnly_of_stores fn hglm hT hg' hsk fun t ht => ?_
    rw [hregs, hnone, List.nil_append] at ht
    exact hstores t ht

/-- An update stores the transform on every registration of the device to the scene. -/
lemma returns_update (hglm : env.glm.Exact) (hT : T.Built env.glm) (hg : WellTyped g)
    (hreg : registrationsTo g sk dk ≠ []) :
    ∃ g', (updateDeviceRegistration env dk sk (some T)).run (db fn) g = (.ok true, g') ∧
      ReturnsFor fn env g' sk dk T ∧ (sk ≠ "" → ReturnsOnly fn env g' sk dk T) := by
  obtain ⟨hgraph, hread⟩ := answer_updateDevice fn env dk sk T g
  have hg' := hg.setRegistrations env.glm dk sk T
  obtain ⟨t, ht⟩ : ∃ t, t ∈ registrationsTo (setRegistrations env.glm g dk sk T) sk dk := by
    rw [setRegistrations, registrationsTo_mapRels]
    exact List.exists_mem_of_ne_nil _ (by simpa using hreg)
  refine ⟨setRegistrations env.glm g dk sk T, ?_, ?_, fun hsk => ?_⟩
  · rw [updateDeviceRegistration, run_askAndRead, hread, hgraph, List.isEmpty_eq_false_iff.mpr hreg]
    rfl
  · exact returnsFor_of_stores fn hglm hT hg' ht (stores_setRegistrations ht)
  · exact returnsOnly_of_stores fn hglm hT hg' hsk fun t ht => stores_setRegistrations ht

end Written

/-! ### Links -/

variable (env) in
/-- A step of a path out of a node reads as a transform, on its own and as a path. -/
structure StepReads (g : Graph R) (a : Node R) (st : Rel R × Bool × Node R) (T : Transform R) :
    Prop where
  step : st ∈ g.stepsFrom a
  edge : ∃ u, edgeTransform env st.1.props st.2.1 = .ok u ∧ Same u T
  path : ∃ u, pathTransform env [st] = .ok u ∧ Same u T

section Linked

variable {g : Graph R} {T : Transform R}

omit [LinearOrder R] in
/-- A path of one edge has the transform of the edge. -/
lemma exists_pathTransform {st : Rel R × Bool × Node R} {u : Transform R}
    (hu : edgeTransform env st.1.props st.2.1 = .ok u) (h : Same u T) :
    ∃ u, pathTransform env [st] = .ok u ∧ Same u T := by
  have hmap : [st].mapM (stepTransform env) = .ok [u] := by
    rw [List.mapM_cons, stepTransform, hu]
    rfl
  refine ⟨_, pathTransform_eq env hmap, ?_, ?_⟩
  · rw [List.foldl_cons, List.foldl_nil, Transform.tran_addTransform, Transform.tran_new,
      zero_add, h.tran]
  · rw [List.foldl_cons, List.foldl_nil, Transform.transform_addTransform,
      Transform.transform_new, mul_one, h.transform]

omit [LinearOrder R] in
/-- Along a relationship that stores the transform. -/
lemma stepReads_of_stores (hglm : env.glm.Exact) (hT : T.Built env.glm)
    {l : Node R × Rel R × Node R} (hl : l ∈ g.triples) (hstores : Stores env.glm T l.2.1.props) :
    StepReads env g l.1 (l.2.1, true, l.2.2) T ∧
      StepReads env g l.2.2 (l.2.1, false, l.1) (T.invert env.glm) := by
  have hsame : Same (T.reread env.glm) T := Same.reread hglm hT
  have hforward : edgeTransform env l.2.1.props true = .ok (T.reread env.glm) := by
    rw [edgeTransform_of_stores env hstores, if_pos rfl]
  have hback : edgeTransform env l.2.1.props false = .ok ((T.reread env.glm).invert env.glm) := by
    rw [edgeTransform_of_stores env hstores, if_neg Bool.false_ne_true]
  constructor
  · refine ⟨?_, ⟨_, hforward, hsame⟩, exists_pathTransform hforward hsame⟩
    exact List.mem_append_left _ (List.mem_map.mpr ⟨l, List.mem_filter.mpr ⟨hl, by simp⟩, rfl⟩)
  · refine ⟨?_, ⟨_, hback, hsame.invert _⟩, exists_pathTransform hback (hsame.invert _)⟩
    exact List.mem_append_right _ (List.mem_map.mpr ⟨l, List.mem_filter.mpr ⟨hl, by simp⟩, rfl⟩)

/-- A link of two scenes stores the transform, and a path reads it from either end. -/
lemma stepReads_link (hglm : env.glm.Exact) (hT : T.Built env.glm) {s₁ s₂ : String}
    (h₁ : scenes g s₁ ≠ []) (h₂ : scenes g s₂ ≠ []) :
    ∃ g' ts, (createSceneLink env s₁ s₂ T).run (db fn) g = (.ok (), g') ∧ ts ≠ [] ∧
      g'.triples = g.triples ++ ts ∧ ∀ l ∈ ts, l.1 ∈ scenes g' s₁ ∧ l.2.2 ∈ scenes g' s₂ ∧
        StepReads env g' l.1 (l.2.1, true, l.2.2) T ∧
        StepReads env g' l.2.2 (l.2.1, false, l.1) (T.invert env.glm) := by
  obtain ⟨ts, hts, hrows⟩ := answer_createLink fn env s₁ s₂ T g
  have hne := hts.ne_nil_of_product h₁ h₂
  refine ⟨_, ts, ?_, hne, hts.triples, fun l hl => ?_⟩
  · obtain ⟨l, ls, rfl⟩ := List.exists_cons_of_ne_nil hne
    rw [createSceneLink, run_askAndRead, hrows]
    rfl
  · have hscenes : ∀ k, scenes (db fn (createSceneLinkQuery env s₁ s₂ T) g).2 k = scenes g k :=
      fun k => by rw [scenes, hts.nodes, scenes]
    rw [hscenes, hscenes]
    refine ⟨(hts.mem_product hl).1, (hts.mem_product hl).2, stepReads_of_stores hglm hT ?_ ?_⟩
    · rw [hts.triples]
      exact List.mem_append_right _ hl
    · rw [(hts.rel l hl).2]
      exact stores_linkProps env.glm T

end Linked

/-! ### Stored transforms -/

/-- Every transform that the operations build comes back from the database: after it is
stored for a scene and a device, with the registrations of the device, and after it is
stored between two scenes, from the edge that was made, inverted against its
direction. -/
theorem stored_transforms_return (hglm : env.glm.Exact) {T : Transform R} (hT : T.Built env.glm)
    {g₀ : Graph R} (hg₀ : WellTyped g₀) (rs : List (Request R)) :
    let g := serveAll fn env g₀ rs
    (∀ sk dk deviceExists conn host port, scenes g sk ≠ [] →
        (deviceExists = true → devices g dk ≠ []) →
      ∃ g', (registerDeviceToScene env dk sk T deviceExists conn host port).run (db fn) g
          = (.ok (), g') ∧ ReturnsFor fn env g' sk dk T ∧
        (sk ≠ "" → registrationsTo g sk dk = [] → ReturnsOnly fn env g' sk dk T)) ∧
    (∀ sk dk, registrationsTo g sk dk ≠ [] →
      ∃ g', (updateDeviceRegistration env dk sk (some T)).run (db fn) g = (.ok true, g') ∧
        ReturnsFor fn env g' sk dk T ∧ (sk ≠ "" → ReturnsOnly fn env g' sk dk T)) ∧
    ∀ s₁ s₂, scenes g s₁ ≠ [] → scenes g s₂ ≠ [] →
      ∃ g' ts, (createSceneLink env s₁ s₂ T).run (db fn) g = (.ok (), g') ∧ ts ≠ [] ∧
        g'.triples = g.triples ++ ts ∧ ∀ l ∈ ts, l.1 ∈ scenes g' s₁ ∧ l.2.2 ∈ scenes g' s₂ ∧
          StepReads env g' l.1 (l.2.1, true, l.2.2) T ∧
          StepReads env g' l.2.2 (l.2.1, false, l.1) (T.invert env.glm) := by
  have hg := hg₀.serveAll fn env rs
  refine ⟨fun sk dk deviceExists conn host port hscene hdevice => ?_, fun sk dk hreg => ?_,
    fun s₁ s₂ h₁ h₂ => ?_⟩
  · exact returns_register fn hglm hT hg hscene hdevice conn host port
  · exact returns_update fn hglm hT hg hreg
  · exact stepReads_link fn hglm hT h₁ h₂

/-- A transform that is turned about two axes, inverted, and added to one about the
third. -/
noncomputable def composedTransform : Transform ℝ :=
  (Transform.new.rotate Glm.real 2 1).addTransform Glm.real
    ((((Transform.new.translate 0 1).rotate Glm.real 0 1).rotate Glm.real 1 1).invert Glm.real)
    false

lemma built_composedTransform : composedTransform.Built Glm.real :=
  .addTransform false (.rotate 2 1 .new)
    (.invert (.rotate 1 1 (.rotate 0 1 (.translate 0 1 .new))))

/-- Two scenes. -/
noncomputable def twoScenes : Graph ℝ :=
  (Graph.empty.addNode "Scene" (sceneProps "a" { key := "a" })).addNode "Scene"
    (sceneProps "b" { key := "b" })

lemma wellTyped_twoScenes : WellTyped twoScenes :=
  (WellTyped.empty.addNode (typed_sceneProps _ _) _).addNode (typed_sceneProps _ _) _

lemma scenes_twoScenes {k : String} (hk : k = "a" ∨ k = "b") : scenes twoScenes k ≠ [] := by
  rcases hk with rfl | rfl
  · exact List.ne_nil_of_mem (mem_scenes.mpr ⟨List.mem_append_left _ (List.mem_singleton.mpr rfl),
      rfl, sceneProps_key (by decide) _⟩)
  · exact List.ne_nil_of_mem (mem_scenes.mpr ⟨List.mem_append_right _ (List.mem_singleton.mpr rfl),
      rfl, sceneProps_key (by decide) _⟩)

/-- Such a transform, for a new device in the one scene and between the two. -/
theorem stored_transforms_return_composed :
    (∃ g', (registerDeviceToScene realEnv "d" "a" composedTransform false "" "" 0).run
        (db fun _ x => x) twoScenes = (.ok (), g') ∧
      ReturnsFor (fun _ x => x) realEnv g' "a" "d" composedTransform) ∧
    ∃ g' ts, (createSceneLink realEnv "a" "b" composedTransform).run (db fun _ x => x) twoScenes
        = (.ok (), g') ∧ ts ≠ [] ∧ g'.triples = twoScenes.triples ++ ts ∧ ∀ l ∈ ts,
      StepReads realEnv g' l.1 (l.2.1, true, l.2.2) composedTransform ∧
      StepReads realEnv g' l.2.2 (l.2.1, false, l.1) (composedTransform.invert Glm.real) := by
  obtain ⟨hregister, -, hlink⟩ := stored_transforms_return (fun _ x => x)
    (show realEnv.glm.Exact from Glm.real_exact) built_composedTransform wellTyped_twoScenes []
  obtain ⟨g', hrun, hreturns, -⟩ :=
    hregister "a" "d" false "" "" 0 (scenes_twoScenes (.inl rfl)) (by simp)
  obtain ⟨g'', ts, hrun', hne, htriples, hsteps⟩ :=
    hlink "a" "b" (scenes_twoScenes (.inl rfl)) (scenes_twoScenes (.inr rfl))
  exact ⟨⟨g', hrun, hreturns⟩, g'', ts, hrun', hne, htriples, fun l hl => (hsteps l hl).2.2⟩

end StoredTransforms

end CrazyIvan
