import CrazyIvan.Network.Registration

/-!
The messages as requests to the server, the queries they can ask and what these
do to the graph.

* `Request`, `Request.program`, `serve`: one message against a database that
  serves every query; `states`: the graphs of a run from the empty graph.
* `Sent`, `asks_program`: the queries; `Asked`, `asked_program`: the queries of one
  request, with the keys it names.
* `Effect`, `effect_of_sent`: what a query does to the graph; `Maintenance` is the
  part of it that creates no node. `Change`, `change_of_asked`: the same for the queries
  of one request.
* `serveAll_invariant`: what every effect keeps, every run keeps.
-/

namespace CrazyIvan

open Cypher Resumption

section Requests

variable {R : Type} [Field R] [LinearOrder R]

/-! ### Requests -/

/-- A message, with the ids that are generated for it. -/
inductive Request (R : Type) [CommRing R] where
  | create (uuid : String) (objMsg : SceneList R)
  | update (objMsg : SceneList R)
  | delete (objMsg : SceneList R)
  | register (cfg : Config) (uuids : Uuids) (objMsg : SceneList R)
  | align (objMsg : SceneList R)
  | deregister (objMsg : SceneList R)

variable (fn : String → R → R) (env : Env R)

/-- The processing of a message. -/
def Request.program : Request R → Db R (ProcessResult R)
  | .create uuid objMsg => processCreateMessage uuid objMsg
  | .update objMsg => processUpdateMessage objMsg
  | .delete objMsg => processDeleteMessage objMsg
  | .register cfg uuids objMsg => processRegistrationMessage env cfg uuids objMsg
  | .align objMsg => processDeviceAlignmentMessage env objMsg
  | .deregister objMsg => processDeregistrationMessage objMsg

/-- The graph after a message. -/
def serve (g : Graph R) (r : Request R) : Graph R := ((r.program env).run (db fn) g).2

/-- The graph after some messages, one at a time. -/
def serveAll (g : Graph R) (rs : List (Request R)) : Graph R := rs.foldl (serve fn env) g

/-! ### The queries -/

/-- The queries of a registration. -/
inductive SentByRegistration : Query R → Prop
  | sceneExists (k : String) : SentByRegistration (sceneExistsQuery k)
  | isUdRegistered (k : String) : SentByRegistration (isUdRegisteredQuery k)
  | getRegistrations (dk : String) : SentByRegistration (getRegistrationsQuery dk)
  | create {newId : String} (hnew : newId ≠ "") (scn : SceneDocument R) :
      SentByRegistration (createSceneQuery newId scn)
  | register (dk sk : String) (t : Transform R) (conn host : String) (port : ℤ) :
      SentByRegistration (registerDeviceQuery env dk sk t false conn host port)

/-- The queries of an alignment. -/
inductive SentByAlignment : Query R → Prop
  | getRegistrations (dk : String) : SentByAlignment (getRegistrationsQuery dk)
  | getSceneLink (k₁ k₂ : String) : SentByAlignment (getSceneLinkQuery k₁ k₂)
  | createLink (k₁ k₂ : String) (t : Transform R) :
      SentByAlignment (createSceneLinkQuery env k₁ k₂ t)
  | updateLink (k₁ k₂ : String) (t : Transform R) :
      SentByAlignment (updateSceneLinkQuery env k₁ k₂ t)
  | updateDevice (dk sk : String) (t : Transform R) :
      SentByAlignment (updateDeviceQuery env dk sk t)

/-- The queries of the messages that create neither scenes nor devices. -/
inductive SentOtherwise : Query R → Prop
  | align {q : Query R} (hq : SentByAlignment env q) : SentOtherwise q
  | update (opType : ℤ) (scn : SceneDocument R) : SentOtherwise (updateSceneQuery opType scn)
  | delete {k : String} (hk : k ≠ "") : SentOtherwise (deleteSceneQuery k)
  | remove (dk sk : String) : SentOtherwise (removeDeviceQuery dk sk)

/-- The queries of all these messages. -/
def Sent (q : Query R) : Prop := SentByRegistration env q ∨ SentOtherwise env q

/-- The queries that the processing of a request can ask, with the keys the request
names. -/
inductive Asked : Request R → Query R → Prop
  | create {uuid : String} {m : SceneList R} {scn : SceneDocument R}
      {rest : List (SceneDocument R)} (hm : m.scenes = scn :: rest)
      (hnew : newSceneKey uuid scn ≠ "") :
      Asked (.create uuid m) (createSceneQuery (newSceneKey uuid scn) scn)
  | update {m : SceneList R} {scn : SceneDocument R} {rest : List (SceneDocument R)}
      (hm : m.scenes = scn :: rest) : Asked (.update m) (updateSceneQuery m.opType scn)
  | delete {m : SceneList R} {scn : SceneDocument R} {rest : List (SceneDocument R)}
      (hm : m.scenes = scn :: rest) (hkey : scn.key ≠ "") :
      Asked (.delete m) (deleteSceneQuery scn.key)
  | sceneExists {cfg : Config} {uuids : Uuids} {m : SceneList R} (k : String) :
      Asked (.register cfg uuids m) (sceneExistsQuery k)
  | isUdRegistered {cfg : Config} {uuids : Uuids} {m : SceneList R} (k : String) :
      Asked (.register cfg uuids m) (isUdRegisteredQuery k)
  | registered {cfg : Config} {uuids : Uuids} {m : SceneList R} (dk : String) :
      Asked (.register cfg uuids m) (getRegistrationsQuery dk)
  | enter {cfg : Config} {uuids : Uuids} {m : SceneList R} {scn : SceneDocument R}
      {rest : List (SceneDocument R)} (hm : m.scenes = scn :: rest)
      (hnew : newSceneKey uuids.scene scn ≠ "") :
      Asked (.register cfg uuids m) (createSceneQuery (newSceneKey uuids.scene scn) scn)
  | register {cfg : Config} {uuids : Uuids} {m : SceneList R} {scn : SceneDocument R}
      {rest : List (SceneDocument R)} {dev : UserDevice R} {devs : List (UserDevice R)}
      (hm : m.scenes = scn :: rest) (hdev : scn.devices = dev :: devs)
      (hkey : newDeviceKey uuids dev ≠ "") :
      Asked (.register cfg uuids m) (linkQuery env uuids scn dev)
  | updateDevice {m : SceneList R} {scn : SceneDocument R} {rest : List (SceneDocument R)}
      {dev : UserDevice R} {devs : List (UserDevice R)} (hm : m.scenes = scn :: rest)
      (hdev : scn.devices = dev :: devs) (t : Transform R) :
      Asked (.align m) (updateDeviceQuery env dev.key scn.key t)
  | alignedTo {m : SceneList R} (dk : String) : Asked (.align m) (getRegistrationsQuery dk)
  | getSceneLink {m : SceneList R} (k₁ k₂ : String) :
      Asked (.align m) (getSceneLinkQuery k₁ k₂)
  | createLink {m : SceneList R} {scn : SceneDocument R} {rest : List (SceneDocument R)}
      (hm : m.scenes = scn :: rest) (k : String) (t : Transform R) :
      Asked (.align m) (createSceneLinkQuery env k scn.key t)
  | updateLink {m : SceneList R} (k₁ k₂ : String) (t : Transform R) :
      Asked (.align m) (updateSceneLinkQuery env k₁ k₂ t)
  | remove {m : SceneList R} {scn : SceneDocument R} {rest : List (SceneDocument R)}
      {dev : UserDevice R} {devs : List (UserDevice R)} (hm : m.scenes = scn :: rest)
      (hdev : scn.devices = dev :: devs) :
      Asked (.deregister m) (removeDeviceQuery dev.key scn.key)

variable {env}

omit [Field R] [LinearOrder R] in
lemma asks_askAndRead {P : Query R → Prop} {α : Type} {q : Query R} (hq : P q)
    (read : Answer R → Except Fail α) : (askAndRead q read).Asks P :=
  (Prog.Asks.query hq).bind fun _ => Prog.Asks.lift _

omit [Field R] [LinearOrder R] in
lemma asks_catching {P : Query R → Prop} {α : Type} {p : Db R α} {f : String → Db R α}
    (hp : p.Asks P) (hf : ∀ what, (f what).Asks P) : (catching p f).Asks P :=
  hp.handle fun e => match e with
    | .exn what => hf what
    | .undefined => Prog.Asks.fail _

lemma asked_create (env : Env R) (uuid : String) (objMsg : SceneList R) :
    (processCreateMessage uuid objMsg).Asks (Asked env (.create uuid objMsg)) := by
  rw [processCreateMessage]
  cases hm : objMsg.scenes with
  | nil => exact Prog.Asks.pure _
  | cons scn rest =>
      exact Prog.Asks.ite (fun _ => Prog.Asks.pure _) fun hnew =>
        asks_askAndRead (.create hm hnew) _

omit [LinearOrder R] in
lemma asks_orRefuse {P : Query R → Prop} {cfg : Config} {objMsg : SceneList R} {α : Type}
    {result : Except Fail α} {next : α → Db R (ProcessResult R)}
    (hnext : ∀ a, (next a).Asks P) : (orRefuse cfg objMsg result next).Asks P :=
  match result with
  | .ok a => hnext a
  | .error (.exn _) => Prog.Asks.lift _
  | .error .undefined => Prog.Asks.fail _

lemma asked_linkDevice {cfg : Config} {uuids : Uuids} {objMsg : SceneList R}
    {scn : SceneDocument R} {rest : List (SceneDocument R)} {dev : UserDevice R}
    {devs : List (UserDevice R)} (hscn : objMsg.scenes = scn :: rest)
    (hdev : scn.devices = dev :: devs) (hkey : newDeviceKey uuids dev ≠ "") (already : Bool) :
    (linkDevice env cfg uuids objMsg scn dev already).Asks
      (Asked env (.register cfg uuids objMsg)) :=
  ⟨.registered _, fun _ => asks_orRefuse fun _ => Prog.Asks.ite (fun _ => Prog.Asks.lift _)
    fun _ => ⟨.register hscn hdev hkey, fun _ => Prog.Asks.lift _⟩⟩

/-- A registration asks whether the scene and the device are there, and creates
the one and links the other. -/
lemma asked_registration (cfg : Config) (uuids : Uuids) (objMsg : SceneList R) :
    (processRegistrationMessage env cfg uuids objMsg).Asks
      (Asked env (.register cfg uuids objMsg)) := by
  by_cases hfields : ∀ scn ∈ objMsg.scenes.head?, scn.devices = []
  · obtain ⟨errMsg, heq⟩ := processRegistrationMessage_refused env cfg uuids hfields
    rw [heq]
    exact Prog.Asks.lift _
  · obtain ⟨scn, rest, dev, devs, hscn, hdev⟩ := exists_head_device hfields
    rw [processRegistrationMessage_eq env cfg uuids hscn hdev]
    refine ⟨.sceneExists _, fun _ => asks_orRefuse fun _ => Prog.Asks.ite
      (fun _ => Prog.Asks.lift _) fun hkey => Prog.Asks.ite (fun _ => ?_) fun _ => ?_⟩
    · have hcreate : (processCreateMessage uuids.scene objMsg).Asks
          (Asked env (.register cfg uuids objMsg)) :=
        (asked_create env uuids.scene objMsg).mono fun
          | _, .create hm hnew => .enter hm hnew
      exact hcreate.bind fun _ => Prog.Asks.ite (fun _ => Prog.Asks.lift _) fun _ =>
        asked_linkDevice hscn hdev hkey _
    · exact ⟨.isUdRegistered _, fun _ => asks_orRefuse fun _ =>
        asked_linkDevice hscn hdev hkey _⟩

lemma asked_update (env : Env R) (objMsg : SceneList R) :
    (processUpdateMessage objMsg).Asks (Asked env (.update objMsg)) := by
  rw [processUpdateMessage]
  cases hm : objMsg.scenes with
  | nil => exact Prog.Asks.pure _
  | cons scn rest =>
      exact Prog.Asks.ite (fun _ => Prog.Asks.pure _) fun _ => asks_askAndRead (.update hm) _

lemma asked_delete (env : Env R) (objMsg : SceneList R) :
    (processDeleteMessage objMsg).Asks (Asked env (.delete objMsg)) := by
  rw [processDeleteMessage]
  cases hm : objMsg.scenes with
  | nil => exact Prog.Asks.pure _
  | cons scn rest =>
      exact Prog.Asks.ite (fun _ => Prog.Asks.pure _) fun hkey =>
        asks_askAndRead (.delete hm hkey) _

omit [LinearOrder R] in
/-- The first scene and its first device, as far as there are any. -/
lemma asks_heads {P : Query R → Prop} {α : Type} {objMsg : SceneList R}
    {f : SceneDocument R → UserDevice R → Db R α}
    (hf : ∀ scn rest dev devs, objMsg.scenes = scn :: rest → scn.devices = dev :: devs →
      (f scn dev).Asks P) :
    (do
      let scn ← Prog.lift (objMsg.getScene 0)
      let dev ← Prog.lift (scn.getDevice 0)
      f scn dev : Db R α).Asks P := by
  cases hscn : objMsg.scenes with
  | nil =>
      rw [SceneList.getScene, hscn]
      exact Prog.Asks.fail _
  | cons scn rest =>
      rw [getScene_zero hscn, Prog.ok_bind]
      cases hdev : scn.devices with
      | nil =>
          rw [SceneDocument.getDevice, hdev]
          exact Prog.Asks.fail _
      | cons dev devs =>
          rw [getDevice_zero hdev, Prog.ok_bind]
          exact hf scn rest dev devs hscn hdev

lemma asked_deregister (env : Env R) (objMsg : SceneList R) :
    (processDeregistrationMessage objMsg).Asks (Asked env (.deregister objMsg)) := by
  rw [processDeregistrationMessage]
  refine Prog.Asks.ite (fun _ => (asks_catching ?_ fun _ => Prog.Asks.pure _).bind fun _ =>
    (Prog.Asks.lift _).bind fun _ => Prog.Asks.pure _) fun _ => (Prog.Asks.pure _).bind fun _ =>
      (Prog.Asks.lift _).bind fun _ => Prog.Asks.pure _
  exact asks_heads fun scn rest dev devs hscn hdev =>
    (asks_askAndRead (.remove hscn hdev) _).bind fun _ => Prog.Asks.pure _

lemma asked_processUDUDScene {objMsg : SceneList R} {scene2 : SceneDocument R}
    {rest : List (SceneDocument R)} (hscn : objMsg.scenes = scene2 :: rest)
    (scene1 : SceneDocument R) :
    (processUDUDScene env scene1 scene2).Asks (Asked env (.align objMsg)) :=
  Prog.Asks.ite (fun _ => Prog.Asks.pure _) fun _ => (Prog.Asks.lift _).bind fun _ =>
    (Prog.Asks.lift _).bind fun _ => (asks_askAndRead (.getSceneLink _ _) _).bind fun _ =>
      Prog.Asks.ite (fun _ => asks_askAndRead (.createLink hscn _ _) _) fun _ =>
        Prog.Asks.ite (fun _ => asks_askAndRead (.updateLink _ _ _) _) fun _ =>
          Prog.Asks.ite (fun _ => asks_askAndRead (.updateLink _ _ _) _) fun _ => Prog.Asks.pure _

lemma asked_processUDUDScenes {objMsg : SceneList R} {scene2 : SceneDocument R}
    {rest : List (SceneDocument R)} (hscn : objMsg.scenes = scene2 :: rest)
    (scenes : List (SceneDocument R)) :
    (processUDUDScenes env scene2 scenes).Asks (Asked env (.align objMsg)) := by
  induction scenes with
  | nil => exact Prog.Asks.pure _
  | cons scene1 rest ih => exact (asked_processUDUDScene hscn scene1).bind fun _ => ih

lemma asked_processUDUDTransformation (registered : Option (SceneList R))
    (objMsg : SceneList R) :
    (processUDUDTransformation env registered objMsg).Asks (Asked env (.align objMsg)) := by
  cases registered with
  | none => exact Prog.Asks.fail _
  | some registered =>
      rw [processUDUDTransformation]
      cases hscn : objMsg.scenes with
      | nil =>
          rw [SceneList.getScene, hscn]
          exact Prog.Asks.fail _
      | cons scene2 rest =>
          rw [getScene_zero hscn, Prog.ok_bind]
          exact asked_processUDUDScenes hscn _

lemma asked_align (objMsg : SceneList R) :
    (processDeviceAlignmentMessage env objMsg).Asks (Asked env (.align objMsg)) := by
  have hblock : ∀ (a : Align R) (p : Db R (Align R)), p.Asks (Asked env (.align objMsg)) →
      (a.whenOk (a.attempt p)).Asks (Asked env (.align objMsg)) := fun a p hp =>
    Prog.Asks.ite (fun _ => asks_catching hp fun _ => Prog.Asks.pure _) fun _ => Prog.Asks.pure _
  refine Prog.Asks.bind (hblock _ _ (asks_heads fun scn rest dev devs hscn hdev => ?_)) fun _ =>
    Prog.Asks.bind (hblock _ _ (asks_heads fun scn rest dev devs _ _ => ?_)) fun _ =>
    Prog.Asks.bind (hblock _ _ ?_) fun _ => (Prog.Asks.lift _).bind fun _ => Prog.Asks.pure _
  · refine Prog.Asks.bind ?_ fun _ => Prog.Asks.pure _
    cases dev.getTransform with
    | none => exact Prog.Asks.fail _
    | some t => exact asks_askAndRead (.updateDevice hscn hdev t) _
  · exact (asks_askAndRead (.alignedTo _) _).bind fun _ => Prog.Asks.pure _
  · exact (asked_processUDUDTransformation _ _).bind fun _ => Prog.Asks.pure _

/-- The processing of a request asks only the queries of the request. -/
theorem asked_program (r : Request R) : (r.program env).Asks (Asked env r) :=
  match r with
  | .create uuid objMsg => asked_create env uuid objMsg
  | .update objMsg => asked_update env objMsg
  | .delete objMsg => asked_delete env objMsg
  | .register cfg uuids objMsg => asked_registration cfg uuids objMsg
  | .align objMsg => asked_align objMsg
  | .deregister objMsg => asked_deregister env objMsg

theorem asks_registration (cfg : Config) (uuids : Uuids) (objMsg : SceneList R) :
    (processRegistrationMessage env cfg uuids objMsg).Asks (SentByRegistration env) := by
  refine (asked_registration cfg uuids objMsg).mono ?_
  intro q hq
  cases hq with
  | sceneExists k => exact .sceneExists k
  | isUdRegistered k => exact .isUdRegistered k
  | registered dk => exact .getRegistrations dk
  | enter hm hnew => exact .create hnew _
  | register hm hdev hkey => exact .register ..

lemma asks_update (objMsg : SceneList R) :
    (processUpdateMessage objMsg).Asks (SentOtherwise env) :=
  (asked_update env objMsg).mono fun
    | _, .update _ => .update _ _

lemma asks_delete (objMsg : SceneList R) :
    (processDeleteMessage objMsg).Asks (SentOtherwise env) :=
  (asked_delete env objMsg).mono fun
    | _, .delete _ hkey => .delete hkey

lemma asks_deregister (objMsg : SceneList R) :
    (processDeregistrationMessage objMsg).Asks (SentOtherwise env) :=
  (asked_deregister env objMsg).mono fun
    | _, .remove _ _ => .remove _ _

lemma asks_align (objMsg : SceneList R) :
    (processDeviceAlignmentMessage env objMsg).Asks (SentByAlignment env) := by
  refine (asked_align objMsg).mono ?_
  intro q hq
  cases hq with
  | updateDevice hm hdev t => exact .updateDevice ..
  | alignedTo dk => exact .getRegistrations dk
  | getSceneLink k₁ k₂ => exact .getSceneLink k₁ k₂
  | createLink hm k t => exact .createLink k _ t
  | updateLink k₁ k₂ t => exact .updateLink k₁ k₂ t

lemma sent_of_asked {r : Request R} {q : Query R} (hq : Asked env r q) : Sent env q := by
  cases hq with
  | create hm hnew => exact .inl (.create hnew _)
  | update hm => exact .inr (.update ..)
  | delete hm hkey => exact .inr (.delete hkey)
  | sceneExists k => exact .inl (.sceneExists k)
  | isUdRegistered k => exact .inl (.isUdRegistered k)
  | registered dk => exact .inl (.getRegistrations dk)
  | enter hm hnew => exact .inl (.create hnew _)
  | register hm hdev hkey => exact .inl (.register ..)
  | updateDevice hm hdev t => exact .inr (.align (.updateDevice ..))
  | alignedTo dk => exact .inr (.align (.getRegistrations dk))
  | getSceneLink k₁ k₂ => exact .inr (.align (.getSceneLink k₁ k₂))
  | createLink hm k t => exact .inr (.align (.createLink k _ t))
  | updateLink k₁ k₂ t => exact .inr (.align (.updateLink k₁ k₂ t))
  | remove hm hdev => exact .inr (.remove ..)

/-- Every message keeps to these queries. -/
theorem asks_program (r : Request R) : (r.program env).Asks (Sent env) :=
  (asked_program r).mono fun _ => sent_of_asked

/-! ### The effects -/

variable (env)

/-- What an alignment does to the graph, query by query. -/
inductive Realignment (g : Graph R) : Graph R → Prop
  | none : Realignment g g
  | link {k₁ k₂ : String} {t : Transform R} {g' : Graph R} {ts : List (Node R × Rel R × Node R)}
      (h : Linked "TRANSFORM" (linkProps env.glm t)
        ((scenes g k₁).flatMap fun n => (scenes g k₂).map fun m => (n, m)) g g' ts) :
      Realignment g g'
  | setRegistrations (dk sk : String) (t : Transform R) :
      Realignment g (setRegistrations env.glm g dk sk t)

/-- What a query does to the graph that creates no node. -/
inductive Maintenance (g : Graph R) : Graph R → Prop
  | realignment {g' : Graph R} (h : Realignment env g g') : Maintenance g g'
  | none : Maintenance g g
  | updateScenes (opType : ℤ) (scn : SceneDocument R) :
      Maintenance g (updateScenes fn opType scn g)
  | deleteScenes (k : String) : Maintenance g (g.detachDelete ((scenes g k).map Node.id))
  | removeDevices (dk sk : String) :
      Maintenance g (g.detachDelete ((registrationsTo g sk dk).map fun t => t.2.2.id))

/-- What a query does to the graph. -/
inductive Effect (g : Graph R) : Graph R → Prop
  | maintenance {g' : Graph R} (h : Maintenance fn env g g') : Effect g g'
  | create {newId : String} {scn : SceneDocument R} (hnew : newId ≠ "") (hscn : Storable scn) :
      Effect g (g.addNode "Scene" (sceneProps newId scn))
  | attach {dk sk conn host : String} {port : ℤ} {t : Transform R} {g' : Graph R}
      {ts : List (Node R × Rel R × Node R)}
      (h : Attached "UserDevice" "TRANSFORM" (deviceProps dk conn host port)
        (linkProps env.glm t) (scenes g sk) g g' ts) : Effect g g'

/-- What a query of a request does to the graph, with the keys the request names. -/
inductive Change (g : Graph R) : Request R → Graph R → Prop
  | none {r : Request R} : Change g r g
  | create {uuid : String} {m : SceneList R} {scn : SceneDocument R}
      {rest : List (SceneDocument R)} (hm : m.scenes = scn :: rest)
      (hnew : newSceneKey uuid scn ≠ "") (hscn : Storable scn) :
      Change g (.create uuid m) (g.addNode "Scene" (sceneProps (newSceneKey uuid scn) scn))
  | enter {cfg : Config} {uuids : Uuids} {m : SceneList R} {scn : SceneDocument R}
      {rest : List (SceneDocument R)} (hm : m.scenes = scn :: rest)
      (hnew : newSceneKey uuids.scene scn ≠ "") (hscn : Storable scn) :
      Change g (.register cfg uuids m)
        (g.addNode "Scene" (sceneProps (newSceneKey uuids.scene scn) scn))
  | attach {cfg : Config} {uuids : Uuids} {m : SceneList R} {scn : SceneDocument R}
      {rest : List (SceneDocument R)} {dev : UserDevice R} {devs : List (UserDevice R)}
      (hm : m.scenes = scn :: rest) (hdev : scn.devices = dev :: devs)
      (hkey : newDeviceKey uuids dev ≠ "") {g' : Graph R} {ts : List (Node R × Rel R × Node R)}
      (h : Attached "UserDevice" "TRANSFORM"
        (deviceProps (newDeviceKey uuids dev) dev.connectionString dev.hostname dev.port)
        (linkProps env.glm (registeredTransform env.glm)) (scenes g scn.key) g g' ts) :
      Change g (.register cfg uuids m) g'
  | update {m : SceneList R} {scn : SceneDocument R} {rest : List (SceneDocument R)}
      (hm : m.scenes = scn :: rest) (hkey : scn.key ≠ "") (hscn : Storable scn) :
      Change g (.update m) (updateScenes fn m.opType scn g)
  | delete {m : SceneList R} {scn : SceneDocument R} {rest : List (SceneDocument R)}
      (hm : m.scenes = scn :: rest) (hkey : scn.key ≠ "") :
      Change g (.delete m) (g.detachDelete ((scenes g scn.key).map Node.id))
  | setRegistrations {m : SceneList R} {scn : SceneDocument R} {rest : List (SceneDocument R)}
      {dev : UserDevice R} {devs : List (UserDevice R)} (hm : m.scenes = scn :: rest)
      (hdev : scn.devices = dev :: devs) (t : Transform R) :
      Change g (.align m) (setRegistrations env.glm g dev.key scn.key t)
  | link {m : SceneList R} {scn : SceneDocument R} {rest : List (SceneDocument R)}
      (hm : m.scenes = scn :: rest) {k : String} {t : Transform R} {g' : Graph R}
      {ts : List (Node R × Rel R × Node R)}
      (h : Linked "TRANSFORM" (linkProps env.glm t)
        ((scenes g k).flatMap fun n => (scenes g scn.key).map fun m => (n, m)) g g' ts) :
      Change g (.align m) g'
  | remove {m : SceneList R} {scn : SceneDocument R} {rest : List (SceneDocument R)}
      {dev : UserDevice R} {devs : List (UserDevice R)} (hm : m.scenes = scn :: rest)
      (hdev : scn.devices = dev :: devs) :
      Change g (.deregister m)
        (g.detachDelete ((registrationsTo g scn.key dev.key).map fun t => t.2.2.id))

variable {env}

lemma Change.effect {g g' : Graph R} {r : Request R} (h : Change fn env g r g') :
    Effect fn env g g' := by
  cases h with
  | none => exact .maintenance .none
  | create hm hnew hscn => exact .create hnew hscn
  | enter hm hnew hscn => exact .create hnew hscn
  | attach hm hdev hkey h => exact .attach h
  | update hm hkey hscn => exact .maintenance (.updateScenes ..)
  | delete hm hkey => exact .maintenance (.deleteScenes ..)
  | setRegistrations hm hdev t => exact .maintenance (.realignment (.setRegistrations ..))
  | link hm h => exact .maintenance (.realignment (.link h))
  | remove hm hdev => exact .maintenance (.removeDevices ..)

/-- A query that creates a scene does so, or it is refused. -/
lemma snd_db_create {newId : String} (hnew : newId ≠ "") (scn : SceneDocument R) (g : Graph R) :
    (db fn (createSceneQuery newId scn) g).2 = g ∨ Storable scn ∧
      (db fn (createSceneQuery newId scn) g).2 = g.addNode "Scene" (sceneProps newId scn) := by
  by_cases hscn : Storable scn
  · exact .inr ⟨hscn, by rw [answer_create fn hnew hscn]⟩
  · obtain ⟨what, hwhat⟩ := answer_create_refused fn hnew hscn g
    exact .inl (by rw [hwhat])

/-- A query that updates a scene does so, or it is refused. -/
lemma snd_db_update (opType : ℤ) (scn : SceneDocument R) (g : Graph R) :
    (db fn (updateSceneQuery opType scn) g).2 = g ∨ scn.key ≠ "" ∧ Storable scn ∧
      (db fn (updateSceneQuery opType scn) g).2 = updateScenes fn opType scn g := by
  by_cases h : scn.key = "" ∨ ¬ Storable scn
  · obtain ⟨what, hwhat⟩ := answer_update_refused fn h opType g
    exact .inl (by rw [hwhat])
  · push Not at h
    obtain ⟨f, hf⟩ := answer_update fn h.1 h.2 opType g
    exact .inr ⟨h.1, h.2, by rw [hf]⟩

/-- Every query of a request does one of these. -/
theorem change_of_asked {r : Request R} {q : Query R} (hq : Asked env r q) (g : Graph R) :
    Change fn env g r (db fn q g).2 := by
  cases hq with
  | create hm hnew =>
      rcases snd_db_create fn hnew _ g with h | ⟨hscn, h⟩ <;> rw [h]
      · exact .none
      · exact .create hm hnew hscn
  | update hm =>
      rcases snd_db_update fn _ _ g with h | ⟨hkey, hscn, h⟩ <;> rw [h]
      · exact .none
      · exact .update hm hkey hscn
  | delete hm hkey =>
      rw [answer_deleteScene fn hkey]
      exact .delete hm hkey
  | sceneExists k => rw [answer_sceneExists]; exact .none
  | isUdRegistered k => rw [answer_isUdRegistered]; exact .none
  | registered dk => rw [answer_getRegistrations]; exact .none
  | enter hm hnew =>
      rcases snd_db_create fn hnew _ g with h | ⟨hscn, h⟩ <;> rw [h]
      · exact .none
      · exact .enter hm hnew hscn
  | register hm hdev hkey =>
      rw [linkQuery]
      obtain ⟨ts, hts, -⟩ := answer_register fn env _ _ _ _ _ _ g
      exact .attach hm hdev hkey hts
  | updateDevice hm hdev t =>
      rw [(answer_updateDevice fn env _ _ t g).1]
      exact .setRegistrations hm hdev t
  | alignedTo dk => rw [answer_getRegistrations]; exact .none
  | getSceneLink k₁ k₂ => rw [answer_getSceneLink]; exact .none
  | createLink hm k t =>
      obtain ⟨ts, hts, -⟩ := answer_createLink fn env k _ t g
      exact .link hm hts
  | updateLink k₁ k₂ t => rw [answer_updateLink]; exact .none
  | remove hm hdev =>
      rw [answer_remove]
      exact .remove hm hdev

lemma effect_of_sentByRegistration {q : Query R} (hq : SentByRegistration env q) (g : Graph R) :
    Effect fn env g (db fn q g).2 := by
  cases hq with
  | sceneExists k => rw [answer_sceneExists]; exact .maintenance .none
  | isUdRegistered k => rw [answer_isUdRegistered]; exact .maintenance .none
  | getRegistrations dk => rw [answer_getRegistrations]; exact .maintenance .none
  | create hnew scn =>
      rcases snd_db_create fn hnew scn g with h | ⟨hscn, h⟩ <;> rw [h]
      · exact .maintenance .none
      · exact .create hnew hscn
  | register dk sk t conn host port =>
      obtain ⟨ts, hts, -⟩ := answer_register fn env dk sk t conn host port g
      exact .attach hts

lemma realignment_of_sentByAlignment {q : Query R} (hq : SentByAlignment env q) (g : Graph R) :
    Realignment env g (db fn q g).2 := by
  cases hq with
  | getRegistrations dk => rw [answer_getRegistrations]; exact .none
  | getSceneLink k₁ k₂ => rw [answer_getSceneLink]; exact .none
  | createLink k₁ k₂ t =>
      obtain ⟨ts, hts, -⟩ := answer_createLink fn env k₁ k₂ t g
      exact .link hts
  | updateLink k₁ k₂ t => rw [answer_updateLink]; exact .none
  | updateDevice dk sk t =>
      rw [(answer_updateDevice fn env dk sk t g).1]
      exact .setRegistrations dk sk t

lemma maintenance_of_sentOtherwise {q : Query R} (hq : SentOtherwise env q) (g : Graph R) :
    Maintenance fn env g (db fn q g).2 := by
  cases hq with
  | align hq => exact .realignment (realignment_of_sentByAlignment fn hq g)
  | update opType scn =>
      rcases snd_db_update fn opType scn g with h | ⟨-, -, h⟩ <;> rw [h]
      · exact .none
      · exact .updateScenes opType scn
  | delete hk => rw [answer_deleteScene fn hk]; exact .deleteScenes _
  | remove dk sk => rw [answer_remove]; exact .removeDevices dk sk

/-- Every query has one of these effects. -/
theorem effect_of_sent {q : Query R} (hq : Sent env q) (g : Graph R) :
    Effect fn env g (db fn q g).2 :=
  hq.elim (fun hq => effect_of_sentByRegistration fn hq g)
    fun hq => .maintenance (maintenance_of_sentOtherwise fn hq g)

/-- What maintenance keeps is kept by the messages that create neither scenes nor
devices. -/
lemma run_maintenance {I : Graph R → Prop} (hI : ∀ g g', Maintenance fn env g g' → I g → I g')
    {p : Db R (ProcessResult R)} (hp : p.Asks (SentOtherwise env)) {g : Graph R} (hg : I g) :
    I (p.run (db fn) g).2 :=
  Prog.Asks.run_invariant (db fn) (fun _ g hq => hI g _ (maintenance_of_sentOtherwise fn hq g))
    hp hg

/-- What every effect keeps, a message keeps. -/
lemma serve_invariant {I : Graph R → Prop} (hI : ∀ g g', Effect fn env g g' → I g → I g')
    (g : Graph R) (r : Request R) (hg : I g) : I (serve fn env g r) :=
  Prog.Asks.run_invariant (db fn) (fun _ g hq => hI g _ (effect_of_sent fn hq g))
    (asks_program r) hg

/-- What every effect keeps, a run keeps. -/
theorem serveAll_invariant {I : Graph R → Prop}
    (hI : ∀ g g', Effect fn env g g' → I g → I g') {g : Graph R} (hg : I g)
    (rs : List (Request R)) : I (serveAll fn env g rs) :=
  foldl_invariant (fun g r => serve_invariant fn hI g r) hg rs

end Requests

end CrazyIvan
