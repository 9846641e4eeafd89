import CrazyIvan.Network.Delivery
import CrazyIvan.Network.Paths

/-!
Where a registration places a device that is registered to other scenes.

* `Reaches`, `ShortestWalk`: the walks over scenes to the scenes with a key.
* `Placement`: the transform along a shortest walk from the first scene that reaches
  the target, else the identity.
* `PlacesDevice`: the registration stores and returns such a transform, and names the scene
  it comes from.
* `placed_iff`: it does so exactly when there is nothing to place by.
-/

namespace CrazyIvan

open Cypher Resumption

section Placement

variable {R : Type} [Field R] [LinearOrder R] (env : Env R)

/-! ### Walks to the target -/

/-- A walk over scenes only from a node to a scene with a key. -/
def WalksTo (g : Graph R) (a : Node R) (sk : String) (w : List (Rel R × Bool × Node R)) : Prop :=
  ∃ b ∈ scenes g sk, SceneWalk g a b w

def Reaches (g : Graph R) (sk : String) (a : Node R) : Prop := ∃ w, WalksTo g a sk w

structure ShortestWalk (g : Graph R) (a : Node R) (sk : String)
    (w : List (Rel R × Bool × Node R)) : Prop where
  walks : WalksTo g a sk w
  shortest : ∀ w', WalksTo g a sk w' → w.length ≤ w'.length

/-- The first of some scenes that reaches the target. -/
def FirstReaching (g : Graph R) (sk : String) (origins : List (Node R)) (a : Node R) : Prop :=
  ∃ before after, origins = before ++ a :: after ∧ (∀ a' ∈ before, ¬ Reaches g sk a') ∧
    Reaches g sk a

/-! ### The placement -/

/-- The transforms have the same values. -/
def Transform.Agrees (glm : Glm R) (t u : Transform R) : Prop :=
  t.translation = u.translation ∧ t.rotation glm = u.rotation glm

/-- The transform for the target, and the scene that it comes from, if there is one. -/
inductive Placement (g : Graph R) (sk : String) (origins : List (Node R)) :
    Transform R → Option (Node R) → Prop
  | identity (h : ∀ a ∈ origins, ¬ Reaches g sk a) : Placement g sk origins Transform.new none
  | along {a : Node R} {w : List (Rel R × Bool × Node R)} {t : Transform R}
      (ha : FirstReaching g sk origins a) (hw : ShortestWalk g a sk w)
      (ht : pathTransform env w = .ok t) : Placement g sk origins t (some a)

/-- The new registrations have the transform, the first scene of the response has the
device with it, and the second one has the key of its origin. -/
structure PlacedBy (g' : Graph R) (sk dk : String) (msg : SceneList R) (t : Transform R)
    (origin : Option (Node R)) : Prop where
  exists_registration : registrationsTo g' sk dk ≠ []
  stored : ∀ r ∈ registrationsTo g' sk dk, Stores env.glm t r.2.1.props
  returned : ∃ s ∈ msg.scenes.head?, ∃ d ∈ s.devices.head?, ∃ u ∈ d.trans,
    d.key = dk ∧ u.Agrees env.glm t
  named : ∀ a ∈ origin, ∃ s ∈ msg.scenes[1]?, HasKey "Scene" s.key a

/-- There is nothing to place by: no scene reaches the target, or the first one that
does has the empty key and is in the place of the target. -/
def Unmoved (g : Graph R) (sk : String) (origins : List (Node R)) : Prop :=
  (∀ a ∈ origins, ¬ Reaches g sk a) ∨
    ∃ a w t, FirstReaching g sk origins a ∧ HasKey "Scene" "" a ∧ ShortestWalk g a sk w ∧
      pathTransform env w = .ok t ∧ t.Agrees env.glm Transform.new

/-! ### Values -/

omit [LinearOrder R] in
/-- An edge that stores a transform stores another one exactly if their values are
the same. -/
lemma stores_linkProps_iff (glm : Glm R) (t u : Transform R) :
    Stores glm t (linkProps glm u) ↔ t.Agrees glm u := by
  constructor
  · intro h
    have hnum : ∀ {x y : R}, some (Value.num x) = some (Value.num y) → y = x := by
      rintro x y h
      exact (Value.num.inj (Option.some.inj h)).symm
    constructor
    · funext i
      fin_cases i
      · exact hnum (h "translation_x" (by decide))
      · exact hnum (h "translation_y" (by decide))
      · exact hnum (h "translation_z" (by decide))
    · funext i
      fin_cases i
      · exact hnum (h "rotation_x" (by decide))
      · exact hnum (h "rotation_y" (by decide))
      · exact hnum (h "rotation_z" (by decide))
  · rintro ⟨htran, hrot⟩ name -
    rw [linkProps, linkProps, transformParams, transformParams, htran, hrot]

omit [LinearOrder R] in
lemma Transform.Agrees.symm {glm : Glm R} {t u : Transform R} (h : t.Agrees glm u) :
    u.Agrees glm t :=
  ⟨h.1.symm, h.2.symm⟩

omit [LinearOrder R] in
lemma Transform.Agrees.trans {glm : Glm R} {t u v : Transform R} (h : t.Agrees glm u)
    (h' : u.Agrees glm v) : t.Agrees glm v :=
  ⟨h.1.trans h'.1, h.2.trans h'.2⟩

omit [LinearOrder R] in
/-- The transform of a registration is the identity. -/
lemma agrees_registeredTransform {glm : Glm R} (hglm : glm.Exact) :
    (registeredTransform glm).Agrees glm Transform.new := by
  constructor
  · funext i
    fin_cases i <;> rfl
  · funext i
    show glm.extractEulerAngleXYZ (1 * glm.rotationMatrix 0 0) i = glm.extractEulerAngleXYZ 1 i
    rw [hglm.rotationMatrix_zero, one_mul]

/-! ### The run of a registration -/

/-- The event information of the configuration can be read. -/
def EventInfo (cfg : Config) : Prop :=
  cfg.aesEnabled = "true" → ∃ instance?, cfg.clymanInstance = .ok instance? ∧
    ∀ i ∈ instance?, ∃ port, stoi i.2 = .ok port

/-- What the registration of a device reads is of the types that it is read as. -/
structure CanRead (cfg : Config) (g : Graph R) (sk dk : String) : Prop where
  key : dk ≠ ""
  devices : ∃ b, readUdRegistered env dk (.rows ((devicesOf g sk).map fun n => [.node n])) = .ok b
  registrations : ∃ found, readRegistrations env (.rows ((registrations g dk).map fun t =>
    [.node t.1, .rel t.2.1, .node t.2.2])) = .ok found
  eventInfo : EventInfo cfg

omit [LinearOrder R] in
lemma exists_addEventInfo_iff {cfg : Config} (resp : SceneList R) :
    (∃ resp', addEventInfo cfg resp = .ok resp') ↔ EventInfo cfg := by
  rw [EventInfo, addEventInfo]
  split
  · next haes =>
      rw [forall_prop_of_true haes]
      cases cfg.clymanInstance with
      | error e => simp [bind, Except.bind]
      | ok instance? =>
          cases instance? with
          | none => simp [bind, Except.bind, pure, Except.pure]
          | some i =>
              obtain ⟨address, port⟩ := i
              cases hport : stoi port <;> simp [hport, bind, Except.bind, pure, Except.pure]
  · next haes => simp [haes, pure, Except.pure]

variable {env} {cfg : Config} {uuids : Uuids} {objMsg : SceneList R} {scn : SceneDocument R}
  {rest : List (SceneDocument R)} {dev : UserDevice R} {devs : List (UserDevice R)}
  {fn : String → R → R} {g g' : Graph R}

omit [LinearOrder R] in
lemma exists_registrationResponse_iff (hscn : objMsg.scenes = scn :: rest) (dk : String) :
    (∃ resp, registrationResponse cfg objMsg (registered env dk) = .ok resp) ↔ EventInfo cfg := by
  have hresponse : registrationResponse cfg objMsg (registered env dk) =
      (addEventInfo cfg (registeredMsg env objMsg scn dk) >>= fun resp =>
        pure { returnStr := .msg (resp.addScene { key := "" }) }) := by
    rw [registrationResponse, getScene_zero hscn]
    rfl
  rw [hresponse, ← exists_addEventInfo_iff (registeredMsg env objMsg scn dk)]
  constructor
  · rintro ⟨resp, hresp⟩
    obtain ⟨added, hadded, -⟩ := exists_of_bind_ok hresp
    exact ⟨added, hadded⟩
  · rintro ⟨added, hadded⟩
    rw [hadded]
    exact ⟨_, rfl⟩

/-- In a scene that exists, a registration asks whether the device is registered. -/
lemma run_registration (hscene : scenes g scn.key ≠ []) (hkey : newDeviceKey uuids dev ≠ "") :
    (registration env cfg uuids objMsg scn dev).run (db fn) g =
      (orRefuse cfg objMsg (readUdRegistered env (newDeviceKey uuids dev)
          (.rows ((devicesOf g scn.key).map fun n => [.node n])))
        (linkDevice env cfg uuids objMsg scn dev)).run (db fn) g := by
  obtain ⟨n, ns, hns⟩ := List.exists_cons_of_ne_nil hscene
  have hexists : readSceneExists (.rows ((scenes g scn.key).map fun n => [.node n])) =
      .ok true := by
    rw [hns]
    rfl
  rw [registration, Prog.run_ask, answer_sceneExists, hexists, orRefuse, if_neg hkey,
    if_neg (by simp), Prog.run_ask, answer_isUdRegistered]

/-- The link is asked for once the earlier registrations are read. -/
lemma run_linkDevice_new :
    (linkDevice env cfg uuids objMsg scn dev false).run (db fn) g =
      (orRefuse cfg objMsg (readRegistrations env (.rows ((registrations g
          (newDeviceKey uuids dev)).map fun t => [.node t.1, .rel t.2.1, .node t.2.2])))
        fun _ => .ask (linkQuery env uuids scn dev) fun _ => Prog.lift
          (registrationResponse cfg objMsg (registered env (newDeviceKey uuids dev)))).run
        (db fn) g := by
  rw [linkDevice, Prog.run_ask, answer_getRegistrations]
  rfl

omit [Field R] in
/-- A device that is found in no scene with the key is reported so. -/
lemma readUdRegistered_of_registrationsTo {sk dk : String} (hdk : dk ≠ "")
    (hnot : registrationsTo g sk dk = []) {b : Bool}
    (h : readUdRegistered env dk (.rows ((devicesOf g sk).map fun n => [.node n])) = .ok b) :
    b = false := by
  have hfound := scanDevices_ok env hdk h
  rw [exists_devicesOf_iff, hnot] at hfound
  simpa using hfound

/-- A registration of a device that is not registered yet reports no error only where all
that is read can be read, and asks for the link. -/
lemma readable_of_reports (hscn : objMsg.scenes = scn :: rest)
    (hscene : scenes g scn.key ≠ [])
    (hnot : registrationsTo g scn.key (newDeviceKey uuids dev) = []) {resp : ProcessResult R}
    {msg : SceneList R}
    (hrun : (registration env cfg uuids objMsg scn dev).run (db fn) g = (.ok resp, g'))
    (hresp : Reports resp msg) :
    CanRead env cfg g scn.key (newDeviceKey uuids dev) ∧
      g' = (db fn (linkQuery env uuids scn dev) g).2 := by
  have hkey := (run_registration_reports env cfg uuids (db fn) hscn hrun hresp).1
  rw [run_registration hscene hkey] at hrun
  obtain ⟨already, halready, hrun⟩ := run_orRefuse_ok cfg (db fn) hrun hresp
  obtain rfl := readUdRegistered_of_registrationsTo hkey hnot halready
  rw [run_linkDevice_new] at hrun
  obtain ⟨found, hfound, hrun⟩ := run_orRefuse_ok cfg (db fn) hrun hresp
  rw [Prog.run_ask, Prog.run_lift] at hrun
  obtain ⟨hresponse, hg'⟩ := Prod.mk.inj hrun
  exact ⟨⟨hkey, ⟨false, halready⟩, ⟨found, hfound⟩,
    (exists_registrationResponse_iff hscn _).mp ⟨resp, hresponse⟩⟩, hg'.symm⟩

/-- Where all can be read it reports no error. -/
lemma exists_reports (hscn : objMsg.scenes = scn :: rest) (hscene : scenes g scn.key ≠ [])
    (hnot : registrationsTo g scn.key (newDeviceKey uuids dev) = [])
    (hread : CanRead env cfg g scn.key (newDeviceKey uuids dev)) (fn : String → R → R) :
    ∃ resp msg, (registration env cfg uuids objMsg scn dev).run (db fn) g =
      (.ok resp, (db fn (linkQuery env uuids scn dev) g).2) ∧ Reports resp msg := by
  obtain ⟨already, halready⟩ := hread.devices
  obtain rfl := readUdRegistered_of_registrationsTo hread.key hnot halready
  obtain ⟨found, hfound⟩ := hread.registrations
  obtain ⟨resp, hresponse⟩ := (exists_registrationResponse_iff hscn _).mpr hread.eventInfo
  obtain ⟨msg, hmsg, -⟩ := registrationResponse_registered env cfg hscn hresponse
  refine ⟨resp, msg, ?_, hmsg⟩
  rw [run_registration hscene hread.key, halready, orRefuse, run_linkDevice_new, hfound, orRefuse,
    Prog.run_ask, Prog.run_lift, hresponse]

/-- What the response of such a run says. -/
lemma scenes_of_run (hscn : objMsg.scenes = scn :: rest) {resp : ProcessResult R}
    {msg : SceneList R}
    (hrun : (registration env cfg uuids objMsg scn dev).run (db fn) g = (.ok resp, g'))
    (hresp : Reports resp msg) :
    msg.scenes = [registeredScene env scn (newDeviceKey uuids dev), { key := "" }] := by
  obtain ⟨-, hresponse, -⟩ := run_registration_reports env cfg uuids (db fn) hscn hrun hresp
  obtain ⟨msg', hmsg', hscenes⟩ := registrationResponse_registered env cfg hscn hresponse
  obtain rfl := Option.some.inj (hresp.1.symm.trans hmsg'.1)
  exact hscenes

/-- The transforms and the origins by which such a registration places the device. -/
lemma placedBy_iff (fn : String → R → R) (hscene : scenes g scn.key ≠ [])
    (hnot : registrationsTo g scn.key (newDeviceKey uuids dev) = []) {msg : SceneList R}
    (hmsg : msg.scenes = [registeredScene env scn (newDeviceKey uuids dev), { key := "" }])
    (t : Transform R) (origin : Option (Node R)) :
    PlacedBy env (db fn (linkQuery env uuids scn dev) g).2 scn.key (newDeviceKey uuids dev) msg t
        origin ↔
      (registeredTransform env.glm).Agrees env.glm t ∧ ∀ a ∈ origin, HasKey "Scene" "" a := by
  obtain ⟨ts, hts, -⟩ := answer_register fn env (newDeviceKey uuids dev) scn.key
    (registeredTransform env.glm) dev.connectionString dev.hostname dev.port g
  have hregs : registrationsTo (db fn (linkQuery env uuids scn dev) g).2 scn.key
      (newDeviceKey uuids dev) = ts := by
    rw [linkQuery, registrationsTo_attached hts, hnot, List.nil_append]
  constructor
  · intro h
    obtain ⟨s, hs, d, hd, u, hu, -, hagrees⟩ := h.returned
    rw [hmsg] at hs
    cases hs
    cases hd
    cases hu
    refine ⟨hagrees, fun a ha => ?_⟩
    obtain ⟨s, hs, hkey⟩ := h.named a ha
    rw [hmsg] at hs
    cases hs
    exact hkey
  · rintro ⟨hagrees, hnamed⟩
    refine ⟨?_, ?_, ?_, ?_⟩
    · rw [hregs]
      exact (attached_ne_nil hts).mpr hscene
    · intro r hr
      rw [hregs] at hr
      rw [(hts.rel r hr).2]
      exact (stores_linkProps_iff env.glm t _).mpr hagrees.symm
    · rw [hmsg]
      exact ⟨_, rfl, _, rfl, _, rfl, rfl, hagrees⟩
    · intro a ha
      rw [hmsg]
      exact ⟨_, rfl, hnamed a ha⟩

/-- The registration places the device by the transform for the target. -/
def PlacesDevice (env : Env R) (cfg : Config) (uuids : Uuids) (fn : String → R → R)
    (objMsg : SceneList R) (scn : SceneDocument R) (dev : UserDevice R) (g : Graph R) : Prop :=
  ∃ resp msg g', (processRegistrationMessage env cfg uuids objMsg).run (db fn) g = (.ok resp, g') ∧
    Reports resp msg ∧ ∃ t origin,
      Placement env g scn.key ((registrations g (newDeviceKey uuids dev)).map Prod.fst) t origin ∧
        PlacedBy env g' scn.key (newDeviceKey uuids dev) msg t origin

/-- A registration places the device where all that is read can be read, if a placement has
the values of the identity and no name. -/
lemma placed_iff_exists (hscn : objMsg.scenes = scn :: rest) (hdev : scn.devices = dev :: devs)
    (hscene : scenes g scn.key ≠ [])
    (hnot : registrationsTo g scn.key (newDeviceKey uuids dev) = []) :
    PlacesDevice env cfg uuids fn objMsg scn dev g ↔
      CanRead env cfg g scn.key (newDeviceKey uuids dev) ∧ ∃ t origin,
        Placement env g scn.key ((registrations g (newDeviceKey uuids dev)).map Prod.fst) t
            origin ∧
          (registeredTransform env.glm).Agrees env.glm t ∧ ∀ a ∈ origin, HasKey "Scene" "" a := by
  rw [PlacesDevice, processRegistrationMessage_eq env cfg uuids hscn hdev]
  constructor
  · rintro ⟨resp, msg, g', hrun, hresp, t, origin, hplacement, hplaced⟩
    obtain ⟨hread, hg'⟩ := readable_of_reports hscn hscene hnot hrun hresp
    have hmsg := scenes_of_run hscn hrun hresp
    rw [hg'] at hplaced
    exact ⟨hread, t, origin, hplacement, (placedBy_iff fn hscene hnot hmsg t origin).mp hplaced⟩
  · rintro ⟨hread, t, origin, hplacement, hagrees⟩
    obtain ⟨resp, msg, hrun, hresp⟩ := exists_reports hscn hscene hnot hread fn
    have hmsg := scenes_of_run hscn hrun hresp
    have hplaced := (placedBy_iff fn hscene hnot hmsg t origin).mpr hagrees
    exact ⟨resp, msg, (db fn (linkQuery env uuids scn dev) g).2, hrun, hresp, t, origin,
      hplacement, hplaced⟩

/-- There is such a placement exactly if the device is not moved. -/
lemma unmoved_iff (hglm : env.glm.Exact) (g : Graph R) (sk : String) (origins : List (Node R)) :
    (∃ t origin, Placement env g sk origins t origin ∧
        (registeredTransform env.glm).Agrees env.glm t ∧ ∀ a ∈ origin, HasKey "Scene" "" a) ↔
      Unmoved env g sk origins := by
  have hidentity := agrees_registeredTransform hglm
  constructor
  · rintro ⟨t, origin, hplacement, hagrees, hnamed⟩
    cases hplacement with
    | identity h => exact .inl h
    | along ha hw ht =>
        exact .inr ⟨_, _, _, ha, hnamed _ rfl, hw, ht, hagrees.symm.trans hidentity⟩
  · rintro (h | ⟨a, w, t, ha, hkey, hw, ht, hagrees⟩)
    · exact ⟨_, _, .identity h, hidentity, nofun⟩
    · refine ⟨t, some a, .along ha hw ht, hidentity.trans hagrees.symm, ?_⟩
      rintro _ ⟨⟩
      exact hkey

/-- A registration to a scene that exists, of a device that is not registered to it,
places the device exactly if the device is not moved and all that is read can be read. -/
theorem placed_iff (hglm : env.glm.Exact) (hscn : objMsg.scenes = scn :: rest)
    (hdev : scn.devices = dev :: devs) (hscene : scenes g scn.key ≠ [])
    (hnot : registrationsTo g scn.key (newDeviceKey uuids dev) = []) :
    PlacesDevice env cfg uuids fn objMsg scn dev g ↔
      CanRead env cfg g scn.key (newDeviceKey uuids dev) ∧
        Unmoved env g scn.key ((registrations g (newDeviceKey uuids dev)).map Prod.fst) := by
  rw [placed_iff_exists hscn hdev hscene hnot, unmoved_iff hglm]

end Placement

/-! ### A device from another scene -/

def keyProps (k : String) : Props ℝ := fun name => if name = "key" then some (.str k) else none

/-- A scene with a device. -/
def studioScene : Node ℝ := ⟨0, "Scene", keyProps "studio"⟩

/-- Another scene. -/
def lobbyScene : Node ℝ := ⟨1, "Scene", keyProps "lobby"⟩

def tabletDevice : Node ℝ := ⟨2, "UserDevice", keyProps "d"⟩

/-- The registration of the device to the lobby. -/
noncomputable def enterLobby : SceneDocument ℝ := { key := "lobby", devices := [{ key := "d" }] }

/-- The two scenes, and the device in the first one. -/
noncomputable def annex : Graph ℝ :=
  (((Graph.empty.addNode "Scene" (keyProps "studio")).addNode "Scene" (keyProps "lobby")).addNode
    "UserDevice" (keyProps "d")).addRel "TRANSFORM" studioScene.id tabletDevice.id
      (linkProps Glm.real Transform.new)

lemma nodes_annex : annex.nodes = [studioScene, lobbyScene, tabletDevice] := by
  rw [annex, Graph.nodes_addRel]
  rfl

lemma triples_annex : annex.triples =
    [(studioScene, ⟨3, "TRANSFORM", 0, 2, linkProps Glm.real Transform.new⟩, tabletDevice)] := by
  rw [annex, Graph.triples_addRel, Graph.triples_addNode, Graph.triples_addNode,
    Graph.triples_addNode, Graph.triples_empty]
  · rfl
  · simp [studioScene, Graph.newNode, Graph.empty]
  · simp [tabletDevice, Graph.addNode, Graph.empty]

lemma scenes_annex : scenes annex "lobby" = [lobbyScene] := by
  rw [scenes, nodes_annex]
  simp [HasKey, studioScene, lobbyScene, tabletDevice, keyProps]

lemma registrations_annex : registrations annex "d" =
    [(studioScene, ⟨3, "TRANSFORM", 0, 2, linkProps Glm.real Transform.new⟩, tabletDevice)] := by
  rw [registrations, triples_annex]
  simp [IsRegistration, HasKey, studioScene, tabletDevice, keyProps]

/-- The lobby has no link to the studio. -/
lemma not_reaches_annex : ¬ Reaches annex "lobby" studioScene := by
  rintro ⟨w, b, hb, hw⟩
  rw [scenes_annex, List.mem_singleton] at hb
  subst hb
  cases w with
  | nil => exact absurd (congrArg Node.id hw.ends) (by decide)
  | cons st w =>
      obtain ⟨hst, htail⟩ := hw.tail
      rcases mem_stepsFrom hw.start hst with ⟨-, ht⟩ | ⟨-, ht⟩ <;>
        rw [triples_annex, List.mem_singleton] at ht
      · have hlabel := htail.scene
        rw [congrArg (fun t => t.2.2.label) ht] at hlabel
        exact absurd hlabel (by decide)
      · have hid : studioScene.id = tabletDevice.id := congrArg (fun t => t.2.2.id) ht
        exact absurd hid (by decide)

/-- The device comes to the lobby with the identity. -/
theorem placed_annex :
    PlacesDevice realEnv plainCfg ⟨"", ""⟩ (fun _ x => x) { scenes := [enterLobby] } enterLobby
      { key := "d" } annex := by
  have hreg : registrationsTo annex "lobby" "d" = [] := by
    rw [registrationsTo, triples_annex]
    simp [HasKey, studioScene, tabletDevice, keyProps]
  refine (placed_iff Glm.real_exact rfl rfl ?_ hreg).mpr ⟨⟨by decide, ?_, ?_,
    fun h => absurd h (by decide)⟩, ?_⟩
  · rw [show enterLobby.key = "lobby" from rfl, scenes_annex]
    simp
  · have hdevices : devicesOf annex enterLobby.key = [] := by
      rw [devicesOf, triples_annex]
      simp [enterLobby, HasKey, studioScene, keyProps]
    rw [hdevices]
    exact ⟨false, rfl⟩
  · rw [show newDeviceKey _ _ = "d" from rfl, registrations_annex]
    exact ⟨_, rfl⟩
  · rw [show newDeviceKey _ _ = "d" from rfl, registrations_annex]
    refine .inl fun a ha => ?_
    obtain rfl := List.mem_singleton.mp ha
    exact not_reaches_annex

/-- The link from the studio to the lobby. -/
noncomputable def corridor : Props ℝ := linkProps Glm.real (Transform.new.translate 0 1)

/-- The two scenes with the link, and the device in the first one. -/
noncomputable def building : Graph ℝ :=
  ((((Graph.empty.addNode "Scene" (keyProps "studio")).addNode "Scene" (keyProps "lobby")).addNode
    "UserDevice" (keyProps "d")).addRel "TRANSFORM" studioScene.id lobbyScene.id corridor).addRel
      "TRANSFORM" studioScene.id tabletDevice.id (linkProps Glm.real Transform.new)

lemma nodes_building : building.nodes = [studioScene, lobbyScene, tabletDevice] := by
  rw [building, Graph.nodes_addRel, Graph.nodes_addRel]
  rfl

lemma triples_building : building.triples =
    [(studioScene, ⟨3, "TRANSFORM", 0, 1, corridor⟩, lobbyScene),
      (studioScene, ⟨4, "TRANSFORM", 0, 2, linkProps Glm.real Transform.new⟩, tabletDevice)] := by
  rw [building, Graph.triples_addRel, Graph.triples_addRel, Graph.triples_addNode,
    Graph.triples_addNode, Graph.triples_addNode, Graph.triples_empty]
  · rw [Graph.newRel, Graph.newRel, Graph.addRel, dif_pos (by decide)]
    rfl
  · simp [studioScene, Graph.newNode, Graph.empty]
  · simp [lobbyScene, Graph.addNode, Graph.empty]
  · simp [studioScene, Graph.newNode, Graph.empty]
  · simp [tabletDevice, Graph.addNode, Graph.empty]

/-- The walk from the studio to the lobby. -/
lemma sceneWalk_building :
    SceneWalk building studioScene lobbyScene
      [(⟨3, "TRANSFORM", 0, 1, corridor⟩, true, lobbyScene)] where
  start := by rw [nodes_building]; simp
  scene := rfl
  walk := by simp [Graph.walks, Graph.stepsFrom, triples_building]
  scenes := by simp [lobbyScene]
  ends := rfl

lemma scenes_building : scenes building "lobby" = [lobbyScene] := by
  rw [scenes, nodes_building]
  simp [HasKey, studioScene, lobbyScene, tabletDevice, keyProps]

lemma registrations_building : registrations building "d" =
    [(studioScene, ⟨4, "TRANSFORM", 0, 2, linkProps Glm.real Transform.new⟩, tabletDevice)] := by
  rw [registrations, triples_building]
  simp [IsRegistration, HasKey, studioScene, lobbyScene, tabletDevice, keyProps]

lemma registrationsTo_building : registrationsTo building "lobby" "d" = [] := by
  rw [registrationsTo, triples_building]
  simp [HasKey, studioScene, lobbyScene, tabletDevice, keyProps]

lemma scenes_enterLobby : scenes building enterLobby.key ≠ [] := by
  rw [show enterLobby.key = "lobby" from rfl, scenes_building]
  simp

/-- The device is not moved from the studio to the lobby. -/
theorem not_all_placed :
    ¬ ∀ (objMsg : SceneList ℝ) (scn : SceneDocument ℝ) (dev : UserDevice ℝ) (g : Graph ℝ),
      objMsg.scenes = [scn] → scn.devices = [dev] → scenes g scn.key ≠ [] →
        registrations g (newDeviceKey ⟨"", ""⟩ dev) ≠ [] →
        registrationsTo g scn.key (newDeviceKey ⟨"", ""⟩ dev) = [] →
        PlacesDevice realEnv plainCfg ⟨"", ""⟩ (fun _ x => x) objMsg scn dev g := by
  intro h
  have hregistered : registrations building "d" ≠ [] := by
    rw [registrations_building]
    simp
  have hplaced := h { scenes := [enterLobby] } enterLobby { key := "d" } building rfl rfl
    scenes_enterLobby hregistered registrationsTo_building
  obtain ⟨-, t, origin, hplacement, -, hnamed⟩ :=
    (placed_iff_exists rfl rfl scenes_enterLobby registrationsTo_building).mp hplaced
  rw [show newDeviceKey ⟨"", ""⟩ ({ key := "d" } : UserDevice ℝ) = "d" from rfl,
    registrations_building] at hplacement
  cases hplacement with
  | identity hnone =>
      exact hnone studioScene (List.mem_singleton_self _)
        ⟨_, lobbyScene, by rw [show enterLobby.key = "lobby" from rfl, scenes_building]; simp,
          sceneWalk_building⟩
  | @along a w t ha _ _ =>
      obtain ⟨before, after, horigins, -⟩ := ha
      have hmem : a ∈ before ++ a :: after := List.mem_append_right _ List.mem_cons_self
      rw [← horigins] at hmem
      obtain rfl := List.mem_singleton.mp hmem
      have hkey := (hnamed _ rfl).2
      simp [studioScene, keyProps] at hkey

end CrazyIvan
