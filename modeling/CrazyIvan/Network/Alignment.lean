import CrazyIvan.Network.Records

/-!
An alignment: the transform of a device in a scene is set, and the scene is linked
to the other scenes of the device.

* `Aligned`: there is one link between two scenes, and it takes the transform of
  the device in the one to that in the other.
* `run_align`: an alignment of a registered device, on a recorded graph.
* `aligned_iff_of_run`: two scenes of the device are aligned by it exactly when
  there was no link between them, in every run.
-/

namespace CrazyIvan

open Cypher Resumption

section Alignment

variable {R : Type} [Field R] [LinearOrder R] (fn : String → R → R) {env : Env R}

/-! ### The links to one scene -/

/-- The link that is computed from a registration of the device, to the scene
that is aligned. -/
structure NewLink (env : Env R) (sk : String) (dest : Transform R)
    (t l : Node R × Rel R × Node R) : Prop where
  start : l.1 = t.1
  ends : HasKey "Scene" sk l.2.2
  props : ∃ T, Stores env.glm T t.2.1.props ∧
    l.2.1.props = linkProps env.glm (ududTransform env (T.reread env.glm) dest)

/-- No link of a recorded graph is recognized. -/
lemma run_getSceneLink {g : Graph R} (h : Recorded env g) (k₁ k₂ : String) :
    (getSceneLink env k₁ k₂).run (db fn) g = (.ok 0, g) := by
  rw [getSceneLink, run_askAndRead, answer_getSceneLink]
  cases hlinks : linksBetween g k₁ k₂ with
  | nil => rfl
  | cons t ts =>
      have ht : t ∈ g.triples :=
        (List.mem_filter.mp (show t ∈ linksBetween g k₁ k₂ by rw [hlinks]; simp)).1
      rw [List.map_cons, readSceneLink, (h.rel t ht).1]

/-- A link is created between two scenes with single keys. -/
lemma run_createSceneLink {g : Graph R} {k₁ k₂ : String} {n m : Node R} (hn : scenes g k₁ = [n])
    (hm : scenes g k₂ = [m]) (t : Transform R) :
    ∃ g' l, (createSceneLink env k₁ k₂ t).run (db fn) g = (.ok (), g') ∧
      Linked "TRANSFORM" (linkProps env.glm t)
        ((scenes g k₁).flatMap fun n => (scenes g k₂).map fun m => (n, m)) g g' [l] ∧
      l.1 = n ∧ l.2.2 = m := by
  obtain ⟨ts, hts, hrows⟩ := answer_createLink fn env k₁ k₂ t g
  have hends := hts.ends
  rw [hn, hm] at hends
  obtain ⟨l, rfl, hl⟩ := List.map_eq_singleton_iff.mp hends
  refine ⟨_, l, ?_, hts, congrArg Prod.fst hl, congrArg Prod.snd hl⟩
  rw [createSceneLink, run_askAndRead, hrows]
  rfl

lemma Recorded.scenes_eq {g : Graph R} (h : Recorded env g) {k : String} {n : Node R}
    (hn : n ∈ g.nodes) (hk : HasKey "Scene" k n) : scenes g k = [n] := by
  have hmem := mem_scenes.mpr ⟨hn, hk⟩
  obtain ⟨m, hm⟩ := List.length_eq_one_iff.mp
    (le_antisymm (h.keys.scenes k) (List.length_pos_of_mem hmem))
  rw [hm] at hmem ⊢
  rw [List.mem_singleton.mp hmem]

omit [Field R] in
/-- A new relationship between two scenes links those two only. -/
lemma linksBetween_append {g g' : Graph R} {l : Node R × Rel R × Node R}
    (htriples : g'.triples = g.triples ++ [l]) (htype : l.2.1.type = "TRANSFORM") {k₁ k₂ : String}
    (h₁ : HasKey "Scene" k₁ l.1) (h₂ : HasKey "Scene" k₂ l.2.2) {sk : String} (hsk : sk ≠ k₂) :
    linksBetween g' sk k₂ = linksBetween g sk k₂ ++ if sk = k₁ then [l] else [] := by
  rw [linksBetween, htriples, List.filter_append, linksBetween]
  congr 1
  have hback : ¬ HasKey "Scene" sk l.2.2 := fun hl => hsk (hl.key_eq h₂)
  have hlink : IsSceneLink l := ⟨h₁.1, htype, h₂.1⟩
  by_cases hk : sk = k₁
  · subst hk
    rw [if_pos rfl, List.filter_eq_self]
    intro t ht
    obtain rfl := List.mem_singleton.mp ht
    exact decide_eq_true ⟨hlink, Or.inl ⟨h₁, h₂⟩⟩
  · have hfwd : ¬ HasKey "Scene" sk l.1 := fun hl => hk (hl.key_eq h₁)
    simp [hk, hback, hfwd]

section Loop

variable {scene2 : SceneDocument R} {dev : UserDevice R} {devs : List (UserDevice R)}
  {dest : Transform R}

omit [LinearOrder R] in
/-- Two scenes without a recognized link are linked by the transforms of the
device. -/
lemma run_processUDUDScene_of {σ : Type} (db : Query R → σ → Answer R × σ)
    {scene1 : SceneDocument R} (hne : scene1.key ≠ scene2.key) {origin : Transform R}
    (horigin : scene1.getDevice 0 >>= UserDevice.transform = .ok origin)
    (hdest : scene2.getDevice 0 >>= UserDevice.transform = .ok dest) {s s' : σ}
    (hlink : (getSceneLink env scene1.key scene2.key).run db s = (.ok 0, s))
    (hcreate : (createSceneLink env scene1.key scene2.key
      (ududTransform env origin dest)).run db s = (.ok (), s')) :
    (processUDUDScene env scene1 scene2).run db s = (.ok (), s') := by
  rw [processUDUDScene, if_neg hne, horigin, Prog.ok_bind, hdest, Prog.ok_bind, Prog.run_bind,
    hlink]
  dsimp only
  rw [if_pos rfl, hcreate]

/-- One scene of the device, other than the aligned one. -/
lemma run_processUDUDScene {g : Graph R} (h : Recorded env g)
    (hdev : scene2.devices = dev :: devs) (hdest : dev.trans = some dest) {m : Node R}
    (hm : scenes g scene2.key = [m]) {t : Node R × Rel R × Node R} (ht : t ∈ g.triples)
    (hlabel : t.1.label = "Scene") {dk : String} {scene1 : SceneDocument R}
    (hreads : ReadsAs env dk t scene1) (hne : scene1.key ≠ scene2.key) :
    ∃ g' l, (processUDUDScene env scene1 scene2).run (db fn) g = (.ok (), g') ∧
      Recorded env g' ∧ g'.nodes = g.nodes ∧ g'.triples = g.triples ++ [l] ∧
      (∀ a b, registrationsTo g' a b = registrationsTo g a b) ∧
      l.2.1.type = "TRANSFORM" ∧ NewLink env scene2.key dest t l := by
  have hsrc : t.1 ∈ g.nodes := g.src_mem_of_triple ht
  obtain ⟨-, T, hT⟩ := h.rel t ht
  obtain ⟨u, hdev₁, hu⟩ := hreads.device
  have horigin : scene1.getDevice 0 >>= UserDevice.transform = .ok (T.reread env.glm) := by
    rw [getDevice_zero hdev₁, hu T hT]
    rfl
  have hdest' : scene2.getDevice 0 >>= UserDevice.transform = .ok dest := by
    rw [getDevice_zero hdev]
    show UserDevice.transform dev = _
    rw [UserDevice.transform, hdest]
  obtain ⟨g', l, hrun, hts, hstart, hend⟩ := run_createSceneLink fn
    (h.scenes_eq hsrc (hreads.hasKey h hsrc hlabel)) hm
    (ududTransform env (T.reread env.glm) dest)
  refine ⟨g', l, ?_, h.link hts, hts.nodes, hts.triples, registrationsTo_linked hts,
    (hts.rel l (by simp)).1, hstart, ?_, T, hT, (hts.rel l (by simp)).2⟩
  · exact run_processUDUDScene_of (db fn) hne horigin hdest' (run_getSceneLink fn h _ _) hrun
  · rw [hend]
    exact (mem_scenes.mp (show m ∈ scenes g scene2.key by rw [hm]; simp)).2

/-- The loop links every scene of the device but the aligned one. The induction is
on the registrations. -/
lemma run_processUDUDScenes (hdev : scene2.devices = dev :: devs) (hdest : dev.trans = some dest)
    {dk : String} {ts : List (Node R × Rel R × Node R)} {scns : List (SceneDocument R)}
    (hreads : List.Forall₂ (ReadsAs env dk) ts scns) {g : Graph R} (h : Recorded env g)
    (hts : ∀ t ∈ ts, t ∈ g.triples ∧ t.1.label = "Scene") {m : Node R}
    (hm : scenes g scene2.key = [m]) :
    ∃ g', (processUDUDScenes env scene2 scns).run (db fn) g = (.ok (), g') ∧
      (∀ a b, registrationsTo g' a b = registrationsTo g a b) ∧
      ∀ sk, sk ≠ scene2.key → ∃ ls,
        linksBetween g' sk scene2.key = linksBetween g sk scene2.key ++ ls ∧
        List.Forall₂ (NewLink env scene2.key dest)
          (ts.filter fun t => HasKey "Scene" sk t.1) ls := by
  induction hreads generalizing g with
  | nil => exact ⟨g, rfl, fun _ _ => rfl, fun _ _ => ⟨[], by simp, by simp⟩⟩
  | @cons t scene1 ts scns hread _ ih =>
      obtain ⟨ht, hlabel⟩ := hts t (by simp)
      have hrest : ∀ t ∈ ts, t ∈ g.triples ∧ t.1.label = "Scene" := fun t ht =>
        hts t (by simp [ht])
      have hkey₁ : HasKey "Scene" scene1.key t.1 :=
        hread.hasKey h (g.src_mem_of_triple ht) hlabel
      have hkey : ∀ sk, HasKey "Scene" sk t.1 ↔ sk = scene1.key := fun sk =>
        ⟨fun hsk => hsk.key_eq hkey₁, fun hsk => hsk ▸ hkey₁⟩
      by_cases hne : scene1.key = scene2.key
      · obtain ⟨g', hrun, hregs, hlinks⟩ := ih h hrest hm
        refine ⟨g', ?_, hregs, fun sk hsk => ?_⟩
        · rw [processUDUDScenes, processUDUDScene, if_pos hne]
          exact hrun
        · rw [List.filter_cons_of_neg (by simpa [hkey, hne] using hsk)]
          exact hlinks sk hsk
      · obtain ⟨g₁, l, hrun₁, h₁, hnodes, htriples, hregs₁, htype, hnew⟩ :=
          run_processUDUDScene fn h hdev hdest hm ht hlabel hread hne
        have hm₁ : scenes g₁ scene2.key = [m] := by rw [scenes, hnodes]; exact hm
        obtain ⟨g', hrun, hregs, hlinks⟩ :=
          ih h₁ (fun t ht => ⟨htriples ▸ List.mem_append_left _ (hrest t ht).1, (hrest t ht).2⟩) hm₁
        refine ⟨g', ?_, fun a b => (hregs a b).trans (hregs₁ a b), fun sk hsk => ?_⟩
        · rw [processUDUDScenes, Prog.run_bind, hrun₁]
          exact hrun
        · obtain ⟨ls, hls, hall⟩ := hlinks sk hsk
          rw [hls, linksBetween_append htriples htype (hnew.start ▸ hkey₁) hnew.ends hsk,
            List.append_assoc]
          by_cases hk : sk = scene1.key
          · rw [if_pos hk, List.filter_cons_of_pos (by simpa [hkey] using hk)]
            exact ⟨l :: ls, rfl, .cons hnew hall⟩
          · rw [if_neg hk, List.filter_cons_of_neg (by simpa [hkey] using hk)]
            exact ⟨ls, rfl, hall⟩

end Loop

/-! ### The message -/

section Message

variable {m : SceneList R} {scn : SceneDocument R} {rest : List (SceneDocument R)}
  {dev : UserDevice R} {devs : List (UserDevice R)}

section Steps

variable {σ : Type} (db : Query R → σ → Answer R × σ)

omit [LinearOrder R] in
/-- The first step: the transform of the device in the scene is set. -/
lemma run_updateRegistration (hscn : m.scenes = scn :: rest) (hdev : scn.devices = dev :: devs)
    {dest : Transform R} (hdest : dev.trans = some dest) {s : σ} {found : Bool}
    (hfound : readUpdated (db (updateDeviceQuery env dev.key scn.key dest) s).1 = .ok found) :
    (updateRegistration env m ⟨noError, "", false, none⟩).run db s =
      (.ok ⟨noError, "", found, none⟩, (db (updateDeviceQuery env dev.key scn.key dest) s).2) := by
  rw [updateRegistration, Align.whenOk, if_pos rfl, Align.attempt, catching, Prog.run_handle,
    getScene_zero hscn, Prog.ok_bind, getDevice_zero hdev, Prog.ok_bind,
    UserDevice.getTransform, hdest, updateDeviceRegistration]
  simp only [Prog.run_bind, run_askAndRead, hfound, Prog.run_pure]

omit [LinearOrder R] in
/-- The second step: the registrations of the device are read. -/
lemma run_findAligned (hscn : m.scenes = scn :: rest) (hdev : scn.devices = dev :: devs) {s : σ}
    {regs : Option (SceneList R)}
    (hregs : readRegistrations env (db (getRegistrationsQuery dev.key) s).1 = .ok regs)
    (found : Bool) :
    (findAligned env m ⟨noError, "", found, none⟩).run db s =
      (.ok ⟨noError, "", found, regs⟩, (db (getRegistrationsQuery dev.key) s).2) := by
  rw [findAligned, Align.whenOk, if_pos rfl, Align.attempt, catching, Prog.run_handle,
    getScene_zero hscn, Prog.ok_bind, getDevice_zero hdev, Prog.ok_bind, getRegistrations]
  simp only [Prog.run_bind, run_askAndRead, hregs, Prog.run_pure]

omit [LinearOrder R] in
/-- The third step: the scenes are linked. -/
lemma run_linkAligned (hscn : m.scenes = scn :: rest) {found : Bool}
    {scns : List (SceneDocument R)} {s s' : σ}
    (hlinks : (processUDUDScenes env scn scns).run db s = (.ok (), s')) :
    (linkAligned env m ⟨noError, "", found, some { scenes := scns }⟩).run db s =
      (.ok ⟨noError, "", found, some { scenes := scns }⟩, s') := by
  rw [linkAligned, Align.whenOk, if_pos rfl, Align.attempt, catching, Prog.run_handle,
    processUDUDTransformation, getScene_zero hscn, Prog.ok_bind]
  simp only [Prog.run_bind, hlinks, Prog.run_pure]

omit [LinearOrder R] in
/-- The three steps after one another. -/
lemma run_alignment (hscn : m.scenes = scn :: rest) (hdev : scn.devices = dev :: devs)
    {dest : Transform R} (hdest : dev.trans = some dest) {s s' : σ}
    {scns : List (SceneDocument R)}
    (hfound : readUpdated (db (updateDeviceQuery env dev.key scn.key dest) s).1 = .ok true)
    (hregs : readRegistrations env (db (getRegistrationsQuery dev.key)
        (db (updateDeviceQuery env dev.key scn.key dest) s).2).1 = .ok (some { scenes := scns }))
    (hlinks : (processUDUDScenes env scn scns).run db (db (getRegistrationsQuery dev.key)
        (db (updateDeviceQuery env dev.key scn.key dest) s).2).2 = (.ok (), s')) :
    (processDeviceAlignmentMessage env m).run db s =
      (.ok (buildStringResponse deviceAlign noError "" m.transactionId scn.key), s') := by
  have herrs : fieldErrs m "alignment" = ⟨noError, ""⟩ := by
    rw [fieldErrs, checkFields_eq hscn hdev]
    rfl
  have hchecked : checkFound (⟨noError, "", true, none⟩ : Align R) = ⟨noError, "", true, none⟩ :=
    if_neg fun h => h.1 rfl
  rw [processDeviceAlignmentMessage, herrs]
  dsimp only
  rw [Prog.run_bind, run_updateRegistration db hscn hdev hdest hfound]
  dsimp only
  rw [hchecked, Prog.run_bind, run_findAligned db hscn hdev hregs]
  dsimp only
  rw [Prog.run_bind, run_linkAligned db hscn hlinks]
  dsimp only
  rw [getScene_zero hscn, Prog.ok_bind, Prog.run_pure]

omit [LinearOrder R] in
/-- A device that is not registered is refused. -/
lemma run_alignment_notFound (hscn : m.scenes = scn :: rest) (hdev : scn.devices = dev :: devs)
    {dest : Transform R} (hdest : dev.trans = some dest) {s : σ}
    (hfound : readUpdated (db (updateDeviceQuery env dev.key scn.key dest) s).1 = .ok false) :
    ∃ s', (processDeviceAlignmentMessage env m).run db s =
      (.ok (buildStringResponse deviceAlign notFound "No Existing Registrations Found"
        m.transactionId scn.key), s') := by
  have herrs : fieldErrs m "alignment" = ⟨noError, ""⟩ := by
    rw [fieldErrs, checkFields_eq hscn hdev]
    rfl
  have hchecked : checkFound (⟨noError, "", false, none⟩ : Align R)
      = ⟨notFound, "No Existing Registrations Found", false, none⟩ :=
    if_pos ⟨by simp, rfl⟩
  have hcode : notFound ≠ noError := by decide
  refine ⟨(db (updateDeviceQuery env dev.key scn.key dest) s).2, ?_⟩
  rw [processDeviceAlignmentMessage, herrs]
  dsimp only
  rw [Prog.run_bind, run_updateRegistration db hscn hdev hdest hfound]
  dsimp only
  rw [hchecked, findAligned, Align.whenOk, if_neg hcode, Prog.pure_bind, linkAligned,
    Align.whenOk, if_neg hcode, Prog.pure_bind, getScene_zero hscn, Prog.ok_bind,
    Prog.run_pure]

omit [LinearOrder R] in
/-- A device without a transform: the null pointer is followed. -/
lemma run_alignment_noTransform (hscn : m.scenes = scn :: rest)
    (hdev : scn.devices = dev :: devs) (hnone : dev.trans = none) (s : σ) :
    (processDeviceAlignmentMessage env m).run db s = (.error .undefined, s) := by
  have herrs : fieldErrs m "alignment" = ⟨noError, ""⟩ := by
    rw [fieldErrs, checkFields_eq hscn hdev]
    rfl
  rw [processDeviceAlignmentMessage, herrs, updateRegistration, Align.whenOk, if_pos rfl,
    Align.attempt, getScene_zero hscn, Prog.ok_bind, getDevice_zero hdev, Prog.ok_bind,
    UserDevice.getTransform, hnone]
  rfl

end Steps

end Message

/-! ### What is aligned -/

variable (env) in
/-- There is one link between two scenes, and read from the second to the first it
takes the transform of the device in the second to that in the first. -/
def Aligned (g : Graph R) (dk sk sk' : String) : Prop :=
  ∃ l, linksBetween g sk' sk = [l] ∧
    ∀ r ∈ registrationsTo g sk dk, ∀ r' ∈ registrationsTo g sk' dk, ∃ T T' E : Transform R,
      edgeTransform env r.2.1.props true = .ok T ∧
      edgeTransform env r'.2.1.props true = .ok T' ∧
      edgeTransform env l.2.1.props (decide (HasKey "Scene" sk' l.1)) = .ok E ∧
      (T'.addTransform env.glm E false).tran = T.tran ∧
      (T'.addTransform env.glm E false).transform = T.transform

/-- The transform of a device in the scene, once it is set. -/
lemma edgeTransform_setRegistrations {g : Graph R} {dk sk : String} {dest : Transform R}
    {r : Node R × Rel R × Node R}
    (hr : r ∈ registrationsTo (setRegistrations env.glm g dk sk dest) sk dk) :
    edgeTransform env r.2.1.props true = .ok (dest.reread env.glm) := by
  rw [edgeTransform_of_stores env (stores_setRegistrations hr), if_pos rfl]

omit [Field R] in
/-- The registrations to a scene are those with its key. -/
lemma registrations_filter (g : Graph R) (sk dk : String) :
    ((registrations g dk).filter fun t => HasKey "Scene" sk t.1) = registrationsTo g sk dk := by
  rw [registrations, List.filter_filter, registrationsTo]
  refine List.filter_congr fun t _ => ?_
  rw [Bool.eq_iff_iff]
  simp only [Bool.and_eq_true, decide_eq_true_eq]
  simp only [IsRegistration, HasKey]
  tauto

/-- The new link takes the transform of the device in its first scene to the one
that is set. -/
lemma aligned_of_newLink (hglm : env.glm.Exact) {sk k : String} {dest : Transform R}
    (hbuilt : dest.Built env.glm) {r l : Node R × Rel R × Node R}
    (hnew : NewLink env k dest r l) (hr : HasKey "Scene" sk r.1) :
    ∃ T' E : Transform R, edgeTransform env r.2.1.props true = .ok T' ∧
      edgeTransform env l.2.1.props (decide (HasKey "Scene" sk l.1)) = .ok E ∧
      (T'.addTransform env.glm E false).tran = (dest.reread env.glm).tran ∧
      (T'.addTransform env.glm E false).transform = (dest.reread env.glm).transform := by
  obtain ⟨T, hT, hprops⟩ := hnew.props
  have horigin := built_reread env.glm T
  have hlink := built_ududTransform env horigin hbuilt
  have htakes := (takes_ududTransform hglm horigin dest).reread hglm hlink
  refine ⟨T.reread env.glm, (ududTransform env (T.reread env.glm) dest).reread env.glm, ?_, ?_,
    ?_, ?_⟩
  · rw [edgeTransform_of_stores env hT, if_pos rfl]
  · rw [hprops, edgeTransform_linkProps, if_pos (decide_eq_true (hnew.start ▸ hr))]
  · rw [Transform.tran_addTransform, htakes.tran, add_sub_cancel, tran_reread]
  · rw [Transform.transform_addTransform, htakes.transform, transform_reread hglm hbuilt]

/-- With the new link of its only registration to the other scene, a device aligns
the scenes exactly when there was no link before. -/
lemma aligned_iff_of_newLink (hglm : env.glm.Exact) {g : Graph R} {dk k sk : String}
    {dest : Transform R} (hbuilt : dest.Built env.glm)
    (hset : ∀ r ∈ registrationsTo g k dk,
      edgeTransform env r.2.1.props true = .ok (dest.reread env.glm))
    {r' l : Node R × Rel R × Node R} {old : List (Node R × Rel R × Node R)}
    (hr' : registrationsTo g sk dk = [r']) (hlinks : linksBetween g sk k = old ++ [l])
    (hnew : NewLink env k dest r' l) :
    Aligned env g dk k sk ↔ old = [] := by
  have hkey : HasKey "Scene" sk r'.1 :=
    (mem_registrationsTo.mp (show r' ∈ registrationsTo g sk dk by rw [hr']; simp)).2.1
  constructor
  · rintro ⟨l', hl', -⟩
    have hlength := congrArg List.length (hlinks.symm.trans hl')
    rw [List.length_append] at hlength
    exact List.eq_nil_of_length_eq_zero (by simpa using hlength)
  · rintro rfl
    refine ⟨l, hlinks, fun r hr r₂ hr₂ => ?_⟩
    rw [hr', List.mem_singleton] at hr₂
    obtain ⟨T', E, hT', hE, htran, hrot⟩ := aligned_of_newLink hglm hbuilt hnew hkey
    exact ⟨_, T', E, hset r hr, hr₂ ▸ hT', hE, htran, hrot⟩

/-- An alignment of a registered device is answered, and it aligns the scene with
those scenes of the device that had no link to it before. -/
lemma exists_run_align (hglm : env.glm.Exact) {g : Graph R} (h : Recorded env g)
    {m : SceneList R} {scn : SceneDocument R} {rest : List (SceneDocument R)}
    {dev : UserDevice R} {devs : List (UserDevice R)} (hscn : m.scenes = scn :: rest)
    (hdev : scn.devices = dev :: devs) {dest : Transform R} (hdest : dev.trans = some dest)
    (hbuilt : dest.Built env.glm) (hreg : registrationsTo g scn.key dev.key ≠ []) :
    ∃ g', (processDeviceAlignmentMessage env m).run (db fn) g =
        (.ok (buildStringResponse deviceAlign noError "" m.transactionId scn.key), g') ∧
      (∀ a b, (registrationsTo g' a b).length = (registrationsTo g a b).length) ∧
      ∀ sk, sk ≠ scn.key → registrationsTo g sk dev.key ≠ [] →
        (Aligned env g' dev.key scn.key sk ↔ linksBetween g sk scn.key = []) := by
  set g₁ := setRegistrations env.glm g dev.key scn.key dest with hg₁
  have h₁ : Recorded env g₁ := h.setRegistrations dev.key scn.key dest
  obtain ⟨hgraph, hfound⟩ := answer_updateDevice fn env dev.key scn.key dest g
  rw [show (!(registrationsTo g scn.key dev.key).isEmpty) = true by simpa using hreg] at hfound
  -- The scene of the registration that is set.
  obtain ⟨t, ht⟩ := List.exists_mem_of_ne_nil _ hreg
  obtain ⟨htriple, htkey, -⟩ := mem_registrationsTo.mp ht
  have hn : scenes g₁ scn.key = [t.1] :=
    h₁.scenes_eq (g.src_mem_of_triple htriple) htkey
  have hlength : ∀ a b, (registrationsTo g₁ a b).length = (registrationsTo g a b).length :=
    fun a b => by rw [hg₁, setRegistrations, registrationsTo_mapRels, List.length_map]
  -- The registrations as they are read, and the loop over them.
  obtain ⟨scns, hscns, hall⟩ := readRegistrations_recorded h₁ dev.key
  have hne : scns.length ≠ 0 := by
    rw [← hall.length_eq]
    have hsub := (List.filter_sublist (l := registrations g₁ dev.key)
      (p := fun t => decide (HasKey "Scene" scn.key t.1))).length_le
    rw [registrations_filter, hlength] at hsub
    have := List.length_pos_of_ne_nil hreg
    omega
  rw [if_neg hne] at hscns
  have hmem : ∀ t ∈ registrations g₁ dev.key, t ∈ g₁.triples ∧ t.1.label = "Scene" :=
    fun t ht => ⟨(List.mem_filter.mp ht).1, (of_decide_eq_true (List.mem_filter.mp ht).2).1.1⟩
  obtain ⟨g', hloop, hregs, hlinks⟩ := run_processUDUDScenes fn hdev hdest hall h₁ hmem hn
  refine ⟨g', ?_, fun a b => by rw [hregs, hlength], fun sk hsk hsome => ?_⟩
  · have hanswer : db fn (getRegistrationsQuery dev.key)
        (db fn (updateDeviceQuery env dev.key scn.key dest) g).2 = _ :=
      (congrArg _ hgraph).trans (answer_getRegistrations fn dev.key g₁)
    exact run_alignment (db fn) hscn hdev hdest hfound (by rw [hanswer]; exact hscns)
      (by rw [hanswer]; exact hloop)
  · obtain ⟨ls, hls, hnew⟩ := hlinks sk hsk
    rw [registrations_filter] at hnew
    -- One registration to the other scene, hence one new link.
    have hone : (registrationsTo g₁ sk dev.key).length = 1 :=
      le_antisymm (h₁.keys.registrations sk dev.key)
        (hlength sk dev.key ▸ List.length_pos_of_ne_nil hsome)
    obtain ⟨r', hr'⟩ := List.length_eq_one_iff.mp hone
    rw [hr'] at hnew
    obtain ⟨l, rfl⟩ : ∃ l, ls = [l] := List.length_eq_one_iff.mp hnew.length_eq.symm
    have hlink : NewLink env scn.key dest r' l := by
      cases hnew with
      | cons hl _ => exact hl
    rw [hg₁, setRegistrations, linksBetween_mapRels] at hls
    rw [aligned_iff_of_newLink hglm hbuilt (fun r hr => edgeTransform_setRegistrations
      ((hregs scn.key dev.key).subst hr)) ((hregs sk dev.key).trans hr') hls hlink,
      List.map_eq_nil_iff]

end Alignment

end CrazyIvan
