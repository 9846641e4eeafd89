import CrazyIvan.Network.Alignment

/-!
Registrations and alignments, one message at a time.

* `NetworkMessage`: such a message, where a generated scene key is free.
* `recorded_serveAll`: what a run of them reaches is recorded.
* `alignment_aligned_iff`: after an alignment in such a run, a scene and another
  one of the device are aligned exactly when no link was between them before.
-/

namespace CrazyIvan

open Cypher Resumption

section Runs

variable {R : Type} [Field R] [LinearOrder R] {fn : String → R → R} {env : Env R}

/-- A registration or an alignment; the key that is generated for a scene is
free. -/
def NetworkMessage (g : Graph R) : Request R → Prop
  | .register _ uuids m => ∀ scn ∈ m.scenes.head?, scn.key = "" → scenes g uuids.scene = []
  | .align _ => True
  | _ => False

/-! ### Registrations -/

lemma Recorded.created {g : Graph R} (h : Recorded env g) {uuid : String} {scn : SceneDocument R}
    (hfree : scenes g (newSceneKey uuid scn) = []) : Recorded env (created uuid scn g) := by
  rw [CrazyIvan.created]
  split
  · next hnew => exact h.addScene hnew.1 scn hfree
  · exact h

lemma Recorded.linkDevice {g : Graph R} (h : Recorded env g) {uuids : Uuids}
    {scn : SceneDocument R} {dev : UserDevice R}
    (hclear : registrationsTo g scn.key (newDeviceKey uuids dev) = []) :
    Recorded env (db fn (linkQuery env uuids scn dev) g).2 := by
  obtain ⟨ts, hts, -⟩ := answer_register fn env (newDeviceKey uuids dev) scn.key
    (registeredTransform env.glm) dev.connectionString dev.hostname dev.port g
  exact h.attach hts (Or.inr hclear)

/-- A registration keeps the records. -/
lemma Recorded.register {g : Graph R} (h : Recorded env g) {cfg : Config} {uuids : Uuids}
    {m : SceneList R} (hok : NetworkMessage g (.register cfg uuids m)) :
    Recorded env (serve fn env g (.register cfg uuids m)) := by
  by_cases hfields : ∀ scn ∈ m.scenes.head?, scn.devices = []
  · obtain ⟨errMsg, heq⟩ := processRegistrationMessage_refused env cfg uuids hfields
    rw [serve, Request.program, heq]
    exact h
  · obtain ⟨scn, rest, dev, devs, hscn, hdev⟩ := exists_head_device hfields
    have hfree : scenes g scn.key = [] → scenes g (newSceneKey uuids.scene scn) = [] :=
      scenes_newSceneKey (hok scn (by rw [hscn]; rfl))
    rcases serve_register fn env hscn hdev cfg uuids g with
      hg | ⟨-, hnone, hg | ⟨-, -, hg⟩⟩ | ⟨-, -, hclear, hg⟩
    · rw [hg]
      exact h
    · rw [hg]
      exact h.created (hfree hnone)
    · rw [hg]
      refine (h.created (hfree hnone)).linkDevice ?_
      rw [registrationsTo_created]
      exact registrationsTo_of_scenes hnone _
    · rw [hg]
      exact h.linkDevice hclear

/-! ### Runs -/

/-- What a run of registrations and alignments reaches is recorded. -/
theorem recorded_serveAll {rs : List (Request R)}
    (hrs : Along (serve fn env) NetworkMessage Graph.empty rs) :
    Recorded env (serveAll fn env Graph.empty rs) := by
  refine forall_states_of_along (fun g r hg hok => ?_) Recorded.empty hrs _
    (List.mem_of_getLast? List.getLast?_scanl)
  cases r with
  | register cfg uuids m => exact hg.register hok
  | align m =>
      exact Prog.Asks.run_invariant (db fn) (fun _ g hq hg =>
        hg.realignment (realignment_of_sentByAlignment fn hq g)) (asks_align m) hg
  | create uuid m => exact hok.elim
  | update m => exact hok.elim
  | delete m => exact hok.elim
  | deregister m => exact hok.elim

/-- An alignment that reports no error is one of a registered device with a
transform. -/
lemma run_align_reports {g g' : Graph R} {m : SceneList R} {scn : SceneDocument R}
    {rest : List (SceneDocument R)} {dev : UserDevice R} {devs : List (UserDevice R)}
    (hscn : m.scenes = scn :: rest) (hdev : scn.devices = dev :: devs)
    {resp : ProcessResult R} {msg : SceneList R}
    (hrun : (processDeviceAlignmentMessage env m).run (db fn) g = (.ok resp, g'))
    (hresp : Reports resp msg) :
    (∃ dest, dev.trans = some dest) ∧ registrationsTo g scn.key dev.key ≠ [] := by
  cases hdest : dev.trans with
  | none =>
      rw [run_alignment_noTransform (db fn) hscn hdev hdest] at hrun
      cases hrun
  | some dest =>
      refine ⟨⟨dest, rfl⟩, fun hnone => ?_⟩
      have hfound := (answer_updateDevice fn env dev.key scn.key dest g).2
      rw [hnone] at hfound
      obtain ⟨s', hs'⟩ := run_alignment_notFound (db fn) hscn hdev hdest hfound
      obtain ⟨hmsg, hcode⟩ := hresp
      obtain rfl := Except.ok.inj (congrArg Prod.fst (hs'.symm.trans hrun))
      obtain rfl := Option.some.inj hmsg
      exact absurd (show notFound = noError from hcode) (by decide)

/-- After an alignment in a run of registrations and alignments, its scene and
another scene of the device are aligned exactly when there was no link between
the two before. -/
theorem alignment_aligned_iff (hglm : env.glm.Exact) {rs : List (Request R)}
    (hrs : Along (serve fn env) NetworkMessage Graph.empty rs) {m : SceneList R}
    {scn : SceneDocument R} {rest : List (SceneDocument R)} {dev : UserDevice R}
    {devs : List (UserDevice R)} (hscn : m.scenes = scn :: rest) (hdev : scn.devices = dev :: devs)
    (hbuilt : ∀ t ∈ dev.trans, t.Built env.glm) {resp : ProcessResult R} {msg : SceneList R}
    {g' : Graph R}
    (hrun : (processDeviceAlignmentMessage env m).run (db fn) (serveAll fn env Graph.empty rs)
      = (.ok resp, g'))
    (hresp : Reports resp msg) {sk : String} (hsk : sk ≠ scn.key)
    (hreg : registrationsTo g' sk dev.key ≠ []) :
    Aligned env g' dev.key scn.key sk ↔
      linksBetween (serveAll fn env Graph.empty rs) sk scn.key = [] := by
  have h := recorded_serveAll hrs
  obtain ⟨⟨dest, hdest⟩, hfound⟩ := run_align_reports hscn hdev hrun hresp
  obtain ⟨g₂, hrun₂, hlength, haligned⟩ :=
    exists_run_align fn hglm h hscn hdev hdest (hbuilt dest hdest) hfound
  obtain rfl : g₂ = g' := congrArg Prod.snd (hrun₂.symm.trans hrun)
  refine haligned sk hsk fun hnone => hreg (List.eq_nil_of_length_eq_zero ?_)
  rw [hlength, hnone, List.length_nil]

/-! ### A device in two scenes -/

omit [Field R] in
/-- A registration is no link between scenes. -/
lemma linksBetween_attached {g g' : Graph R} {dk conn host : String} {port : ℤ}
    {rprops : Props R} {ns : List (Node R)} {ts : List (Node R × Rel R × Node R)}
    (hts : Attached "UserDevice" "TRANSFORM" (deviceProps dk conn host port) rprops ns g g' ts)
    (a b : String) : linksBetween g' a b = linksBetween g a b := by
  rw [linksBetween, hts.triples, List.filter_append, linksBetween]
  refine List.append_right_eq_self.mpr (List.filter_eq_nil_iff.mpr fun t ht => ?_)
  rw [decide_eq_true_eq]
  rintro ⟨⟨-, -, hlabel⟩, -⟩
  rw [(hts.dst t ht).1] at hlabel
  exact absurd hlabel (by decide)

variable (fn) in
/-- A registration to a scene that is not there, in a recorded graph: the device
is registered to it, nothing else changes. -/
lemma serve_register_recorded {g : Graph R} (h : Recorded env g) (cfg : Config) (uuids : Uuids)
    (scn : SceneDocument R) {dev : UserDevice R} {devs : List (UserDevice R)}
    (hdev : scn.devices = dev :: devs) (hdk : newDeviceKey uuids dev ≠ "") (hsk : scn.key ≠ "")
    (hnone : scenes g scn.key = []) (hstorable : Storable scn) :
    let g' := serve fn env g (.register cfg uuids { scenes := [scn] })
    registrationsTo g' scn.key (newDeviceKey uuids dev) ≠ [] ∧
      (∀ sk dk, sk ≠ scn.key → registrationsTo g' sk dk = registrationsTo g sk dk) ∧
      (∀ k, k ≠ scn.key → scenes g' k = scenes g k) ∧
      ∀ a b, linksBetween g' a b = linksBetween g a b := by
  intro g'
  have hnew : newSceneKey uuids.scene scn = scn.key := if_neg hsk
  have hcreated : created uuids.scene scn g = g.addNode "Scene" (sceneProps scn.key scn) := by
    rw [created, hnew, if_pos ⟨hsk, hstorable⟩]
  have h₁ : Recorded env (created uuids.scene scn g) := h.created (hnew ▸ hnone)
  obtain ⟨scns, hscns, -⟩ := readRegistrations_recorded h₁ (newDeviceKey uuids dev)
  have hg' : g' = (db fn (linkQuery env uuids scn dev) (created uuids.scene scn g)).2 :=
    serve_register_new fn env rfl hdev cfg hdk hnone ⟨hnew ▸ hsk, hstorable⟩ (by rw [hscns]; rfl)
  obtain ⟨ts, hts, -⟩ := answer_register fn env (newDeviceKey uuids dev) scn.key
    (registeredTransform env.glm) dev.connectionString dev.hostname dev.port
    (created uuids.scene scn g)
  rw [hcreated] at hg' hts
  rw [linkQuery] at hg'
  rw [← hg'] at hts
  have hscenes : ∀ k, scenes (g.addNode "Scene" (sceneProps scn.key scn)) k = scenes g k ++
      if scn.key = k then [g.newNode "Scene" (sceneProps scn.key scn)] else [] := by
    intro k
    rw [scenes_addNode, sceneProps_key hsk]
    simp
  refine ⟨?_, fun sk dk hne => ?_, fun k hk => ?_, fun a b => ?_⟩
  · have hts_ne : ts ≠ [] := (attached_ne_nil hts).mpr (by rw [hscenes, if_pos rfl]; simp)
    rw [registrationsTo_attached hts]
    exact List.append_ne_nil_of_right_ne_nil _ hts_ne
  · rw [registrationsTo_attached_of_ne hts fun heq => hne heq.1, registrationsTo_addNode]
  · rw [scenes_attached hts, hscenes, if_neg (Ne.symm hk), List.append_nil]
  · rw [linksBetween_attached hts, linksBetween, Graph.triples_addNode, linksBetween]

/-- The device, moved and turned, in the second scene. -/
noncomputable def movedDevice : UserDevice ℝ :=
  { key := "d", trans := some ((Transform.new.translate 0 1).rotate Glm.real 2 1) }

/-- The first scene, with the device. -/
noncomputable def firstScene : SceneDocument ℝ := { key := "s", devices := [movedDevice] }

/-- The second scene, with the device. -/
noncomputable def secondScene : SceneDocument ℝ := { key := "s2", devices := [movedDevice] }

/-- The device is registered to both scenes. -/
noncomputable def twoEntries : List (Request ℝ) :=
  [.register plainCfg ⟨"", ""⟩ { scenes := [firstScene] },
    .register plainCfg ⟨"", ""⟩ { scenes := [secondScene] }]

lemma along_twoEntries :
    Along (serve (fun _ x => x) realEnv) NetworkMessage Graph.empty twoEntries := by
  refine ⟨fun scn hscn hkey => ?_, fun scn hscn hkey => ?_, trivial⟩
  · obtain rfl : firstScene = scn := Option.some.inj hscn
    exact absurd hkey (by simp [firstScene])
  · obtain rfl : secondScene = scn := Option.some.inj hscn
    exact absurd hkey (by simp [secondScene])

/-- Then it is registered to both, and there is no link. -/
lemma registered_twoEntries :
    let g := serveAll (fun _ x => x) realEnv Graph.empty twoEntries
    registrationsTo g "s" "d" ≠ [] ∧ registrationsTo g "s2" "d" ≠ [] ∧
      linksBetween g "s" "s2" = [] := by
  have hdk : newDeviceKey ⟨"", ""⟩ movedDevice = "d" := by simp [newDeviceKey, movedDevice]
  have hstorable : ∀ k, Storable ({ key := k, devices := [movedDevice] } : SceneDocument ℝ) :=
    fun k => ⟨lt_irrefl _, lt_irrefl _⟩
  have h₁ : Recorded realEnv (serve (fun _ x => x) realEnv Graph.empty
      (.register plainCfg ⟨"", ""⟩ { scenes := [firstScene] })) :=
    Recorded.empty.register along_twoEntries.1
  obtain ⟨hreg, -, hscenes, hlinks⟩ := serve_register_recorded (fun _ x => x)
    (Recorded.empty : Recorded realEnv _) plainCfg ⟨"", ""⟩ firstScene rfl (by rw [hdk]; simp)
    (by simp [firstScene]) rfl (hstorable _)
  obtain ⟨hreg', hregs', -, hlinks'⟩ := serve_register_recorded (fun _ x => x) h₁ plainCfg ⟨"", ""⟩
    secondScene rfl (by rw [hdk]; simp) (by simp [secondScene])
    (by rw [hscenes _ (by simp [firstScene, secondScene])]; rfl) (hstorable _)
  rw [hdk] at hreg hreg'
  refine ⟨?_, hreg', ?_⟩
  · show registrationsTo (serve _ _ _ _) "s" "d" ≠ []
    rw [hregs' _ _ (by simp [secondScene])]
    exact hreg
  · show linksBetween (serve _ _ _ _) "s" "s2" = []
    rw [hlinks', hlinks]
    rfl

lemma built_movedDevice : ∀ t ∈ movedDevice.trans, t.Built realEnv.glm := by
  intro t ht
  obtain rfl := Option.some.inj ht
  exact .rotate 2 1 (.translate 0 1 .new)

/-- An alignment of the device in the second scene. -/
noncomputable def secondAlignment : SceneList ℝ := { scenes := [secondScene] }

lemma run_secondAlignment {g : Graph ℝ} (h : Recorded realEnv g)
    (hreg : registrationsTo g "s2" "d" ≠ []) :
    ∃ g', (processDeviceAlignmentMessage realEnv secondAlignment).run (db fun _ x => x) g =
        (.ok (buildStringResponse deviceAlign noError "" "" "s2"), g') ∧
      (∀ a b, (registrationsTo g' a b).length = (registrationsTo g a b).length) ∧
      (registrationsTo g "s" "d" ≠ [] →
        (Aligned realEnv g' "d" "s2" "s" ↔ linksBetween g "s" "s2" = [])) := by
  have hscn : secondAlignment.scenes = [secondScene] := rfl
  have hdev : secondScene.devices = [movedDevice] := rfl
  obtain ⟨g', hrun, hlength, haligned⟩ := exists_run_align (fun _ x => x)
    (show realEnv.glm.Exact from Glm.real_exact) h hscn hdev rfl (built_movedDevice _ rfl) hreg
  exact ⟨g', hrun, hlength, haligned "s" (by simp [secondScene])⟩

lemma reports_secondAlignment : Reports (buildStringResponse deviceAlign noError "" "" "s2")
    (buildResponseScene (R := ℝ) deviceAlign noError "" "" "s2") := ⟨rfl, rfl⟩

lemma ne_nil_of_length_eq {α β : Type} {l : List α} {l' : List β} (h : l'.length = l.length)
    (hl : l ≠ []) : l' ≠ [] := by
  rw [← List.length_pos_iff, h, List.length_pos_iff]
  exact hl

/-- The first alignment of the two scenes. -/
theorem alignment_aligned_twoEntries :
    ∃ resp msg g', (processDeviceAlignmentMessage realEnv secondAlignment).run
        (db fun _ x => x) (serveAll (fun _ x => x) realEnv Graph.empty twoEntries)
          = (.ok resp, g') ∧
      Reports resp msg ∧ Aligned realEnv g' "d" "s2" "s" := by
  obtain ⟨hfirst, hsecond, hnone⟩ := registered_twoEntries
  obtain ⟨g', hrun, hlength, -⟩ :=
    run_secondAlignment (recorded_serveAll along_twoEntries) hsecond
  have hscn : secondAlignment.scenes = [secondScene] := rfl
  have hdev : secondScene.devices = [movedDevice] := rfl
  have hsk : "s" ≠ secondScene.key := by simp [secondScene]
  have hreg : registrationsTo g' "s" movedDevice.key ≠ [] :=
    ne_nil_of_length_eq (hlength "s" "d") hfirst
  exact ⟨_, _, g', hrun, reports_secondAlignment,
    (alignment_aligned_iff Glm.real_exact along_twoEntries hscn hdev built_movedDevice hrun
      reports_secondAlignment hsk hreg).mpr hnone⟩

/-- The same alignment once more makes a second link between the two scenes. -/
theorem alignment_links_twice :
    ¬ ∀ (rs : List (Request ℝ)) (m : SceneList ℝ) (scn : SceneDocument ℝ)
        (rest : List (SceneDocument ℝ)) (dev : UserDevice ℝ) (devs : List (UserDevice ℝ))
        (resp : ProcessResult ℝ) (msg : SceneList ℝ) (g' : Graph ℝ) (sk : String),
      Along (serve (fun _ x => x) realEnv) NetworkMessage Graph.empty rs →
      m.scenes = scn :: rest → scn.devices = dev :: devs →
      (∀ t ∈ dev.trans, t.Built realEnv.glm) →
      (processDeviceAlignmentMessage realEnv m).run (db fun _ x => x)
        (serveAll (fun _ x => x) realEnv Graph.empty rs) = (.ok resp, g') →
      Reports resp msg → sk ≠ scn.key → registrationsTo g' sk dev.key ≠ [] →
      Aligned realEnv g' dev.key scn.key sk := by
  intro h
  obtain ⟨hfirst, hsecond, hnone⟩ := registered_twoEntries
  obtain ⟨g₁, hrun₁, hlength₁, haligned₁⟩ :=
    run_secondAlignment (recorded_serveAll along_twoEntries) hsecond
  -- The run with the first alignment.
  have halong : Along (serve (fun _ x => x) realEnv) NetworkMessage Graph.empty
      (twoEntries ++ [.align secondAlignment]) :=
    ⟨along_twoEntries.1, along_twoEntries.2.1, trivial, trivial⟩
  have hg₁ : serveAll (fun _ x => x) realEnv Graph.empty
      (twoEntries ++ [.align secondAlignment]) = g₁ := by
    rw [serveAll, List.foldl_append, List.foldl_cons, List.foldl_nil, ← serveAll, serve,
      Request.program, hrun₁]
  have hrec₁ := recorded_serveAll halong
  rw [hg₁] at hrec₁
  -- The second one.
  have hfirst₁ := ne_nil_of_length_eq (hlength₁ "s" "d") hfirst
  obtain ⟨g₂, hrun₂, hlength₂, haligned₂⟩ :=
    run_secondAlignment hrec₁ (ne_nil_of_length_eq (hlength₁ "s2" "d") hsecond)
  have hlinks := (haligned₂ hfirst₁).mp (h _ secondAlignment secondScene [] movedDevice [] _ _ g₂
    "s" halong rfl rfl built_movedDevice (by rw [hg₁]; exact hrun₂) reports_secondAlignment
    (by simp [secondScene]) (ne_nil_of_length_eq (hlength₂ "s" "d") hfirst₁))
  obtain ⟨l, hl, -⟩ := (haligned₁ hfirst).mpr hnone
  rw [hl] at hlinks
  cases hlinks

end Runs

end CrazyIvan
