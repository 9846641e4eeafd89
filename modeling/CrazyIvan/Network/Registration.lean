import CrazyIvan.Processor.MessageProcessor
import CrazyIvan.Query.SceneStatements

/-!
A registration as the queries it asks.

`processRegistrationMessage` is a chain of guarded blocks; for a message with a
scene and a device it is the decision tree `registration`, with one query at
each inner node (`processRegistrationMessage_eq`), and without queries for any
other message (`processRegistrationMessage_refused`).

* `registration`: existence check, creation or registration check, earlier
  registrations, link.
* `asks_registration`: the queries it can ask.
-/

namespace CrazyIvan

open Cypher Resumption

section Registration

variable {R : Type} [Field R] (env : Env R) (cfg : Config) (uuids : Uuids)

/-- The transform every registration is made with. -/
def registeredTransform (glm : Glm R) : Transform R :=
  (Transform.new.translate 0 0).rotate glm 0 0

/-- The key a device is registered under: its own, else a generated one. -/
def newDeviceKey (uuids : Uuids) (dev : UserDevice R) : String :=
  if dev.key = "" then uuids.device else dev.key

/-- The variables of a registration that comes through. -/
def registered (dk : String) : Reg R :=
  { Reg.init with newId := dk, newTransform := registeredTransform env.glm }

/-- The end of a registration that fails. -/
def refuse (objMsg : SceneList R) (errCode : ℤ) (errMsg : String) : Db R (ProcessResult R) :=
  Prog.lift (registrationResponse cfg objMsg (Reg.init.fail errCode errMsg))

/-- The query that links a device to a scene. -/
def linkQuery (scn : SceneDocument R) (dev : UserDevice R) : Query R :=
  registerDeviceQuery env (newDeviceKey uuids dev) scn.key (registeredTransform env.glm) false
    dev.connectionString dev.hostname dev.port

/-- What follows a query whose exceptions end in the error of the message. -/
def orRefuse {α : Type} (objMsg : SceneList R) (result : Except Fail α)
    (next : α → Db R (ProcessResult R)) : Db R (ProcessResult R) :=
  match result with
  | .ok a => next a
  | .error (.exn what) => refuse cfg objMsg processingError what
  | .error .undefined => Prog.fail .undefined

/-- The second half: look for earlier registrations, which has no effect, and
link a device that is not registered yet. -/
def linkDevice (objMsg : SceneList R) (scn : SceneDocument R) (dev : UserDevice R)
    (alreadyRegistered : Bool) : Db R (ProcessResult R) :=
  let respond : Db R (ProcessResult R) :=
    Prog.lift (registrationResponse cfg objMsg (registered env (newDeviceKey uuids dev)))
  .ask (getRegistrationsQuery (newDeviceKey uuids dev)) fun a =>
    orRefuse cfg objMsg (readRegistrations env a) fun _ =>
      if alreadyRegistered then respond
      else .ask (linkQuery env uuids scn dev) fun _ => respond

/-! ### The blocks -/

/-- A query in a `try` whose handler sets the error. -/
lemma attempt_ask {α : Type} (r : Reg R) (q : Query R) (read : Answer R → Except Fail α)
    (f : α → Reg R) :
    r.attempt (do let x ← askAndRead q read; pure (f x)) = .ask q fun a =>
      match read a with
      | .ok x => pure (f x)
      | .error (.exn what) => pure (r.fail processingError what)
      | .error .undefined => Prog.fail .undefined := by
  show Prog.ask q (fun a => ((Prog.lift (read a)).bind fun x => pure (f x)).handle _) = _
  congr 1
  funext a
  cases read a with
  | ok x => rfl
  | error e => cases e <;> rfl

/-- The variables once the scene has been entered. -/
def entered (isFirstDevice doesSceneExist alreadyRegistered : Bool) (dk : String) : Reg R :=
  { Reg.init with isFirstDevice, doesSceneExist, alreadyRegistered, newId := dk }

/-- The blocks behind the first three. -/
def lastBlocks (objMsg : SceneList R) (r : Reg R) : Db R (ProcessResult R) := do
  let r ← findRegistrations env r
  let r ← findTransform env objMsg r
  let r ← createLink env objMsg r
  let r ← linkNewScene env objMsg r
  Prog.lift (registrationResponse cfg objMsg r)

variable {objMsg : SceneList R} {scn : SceneDocument R} {rest : List (SceneDocument R)}
  {dev : UserDevice R} {devs : List (UserDevice R)}

lemma getScene_zero (hscn : objMsg.scenes = scn :: rest) : objMsg.getScene 0 = .ok scn := by
  rw [SceneList.getScene, hscn]
  rfl

lemma getDevice_zero (hdev : scn.devices = dev :: devs) : scn.getDevice 0 = .ok dev := by
  rw [SceneDocument.getDevice, hdev]
  rfl

lemma checkFields_eq (hscn : objMsg.scenes = scn :: rest) (hdev : scn.devices = dev :: devs)
    (r : Reg R) (what : String) : checkFields objMsg r what = r := by
  rw [checkFields, hscn]
  simp [SceneDocument.numDevices, hdev]

lemma findTransform_eq {r : Reg R} (hr : r.previouslyRegistered = false) :
    findTransform env objMsg r = pure { r with newTransform := registeredTransform env.glm } :=
  if_neg fun h => by simp [hr] at h

lemma createLink_skip {r : Reg R} (hr : r.alreadyRegistered = true ∨ r.currentErrCode ≠ noError) :
    createLink env objMsg r = pure r :=
  if_neg fun h => by
    rcases hr with hr | hr
    · simp [hr] at h
    · exact hr h.2

lemma createLink_eq (hscn : objMsg.scenes = scn :: rest) (hdev : scn.devices = dev :: devs)
    {r : Reg R} (halready : r.alreadyRegistered = false) (hcode : r.currentErrCode = noError) :
    createLink env objMsg r =
      .ask (registerDeviceQuery env r.newId scn.key r.newTransform r.previouslyRegistered
        dev.connectionString dev.hostname dev.port) fun _ => pure r := by
  rw [createLink, if_pos ⟨by simp [halready], hcode⟩, getScene_zero hscn]
  simp only [Prog.ok_bind, getDevice_zero hdev]
  rfl

lemma linkNewScene_eq {r : Reg R} (hr : r.previouslyRegistered = false) :
    linkNewScene env objMsg r = pure r :=
  if_neg fun h => by simp [hr] at h

/-- After an error nothing further is done. -/
lemma lastBlocks_of_error {r : Reg R} (hcode : r.currentErrCode ≠ noError)
    (hregs : r.registeredScenes = none) :
    lastBlocks env cfg objMsg r = refuse cfg objMsg r.currentErrCode r.currentErrMsg := by
  have hfind : findRegistrations env r = pure { r with previouslyRegistered := false } := by
    rw [findRegistrations, Reg.whenOk, if_neg hcode, Prog.pure_bind, hregs]
    rfl
  rw [lastBlocks, hfind, Prog.pure_bind, findTransform_eq env rfl, Prog.pure_bind,
    createLink_skip env (Or.inr (by exact hcode)), Prog.pure_bind, linkNewScene_eq env (by rfl),
    Prog.pure_bind]
  simp [refuse, registrationResponse, Reg.fail, hcode]

/-- The registrations that are found are not used: the flag that they were found
stays unset. -/
lemma findRegistrations_entered (isFirstDevice doesSceneExist alreadyRegistered : Bool)
    (dk : String) :
    findRegistrations env (entered isFirstDevice doesSceneExist alreadyRegistered dk) =
      .ask (getRegistrationsQuery dk) fun a =>
        match readRegistrations env a with
        | .ok registeredScenes => pure
            { entered isFirstDevice doesSceneExist alreadyRegistered dk with registeredScenes }
        | .error (.exn what) => pure
            ((entered isFirstDevice doesSceneExist alreadyRegistered dk).fail processingError what)
        | .error .undefined => Prog.fail .undefined := by
  rw [findRegistrations, Reg.whenOk, if_pos (by rfl), getRegistrations, attempt_ask,
    Prog.ask_bind]
  congr 1
  funext a
  cases readRegistrations env a with
  | ok regs => cases regs <;> rfl
  | error e => cases e <;> rfl

lemma lastBlocks_entered (hscn : objMsg.scenes = scn :: rest)
    (hdev : scn.devices = dev :: devs)
    (isFirstDevice doesSceneExist alreadyRegistered : Bool) :
    lastBlocks env cfg objMsg
        (entered isFirstDevice doesSceneExist alreadyRegistered (newDeviceKey uuids dev)) =
      linkDevice env cfg uuids objMsg scn dev alreadyRegistered := by
  rw [lastBlocks, findRegistrations_entered, linkDevice, Prog.ask_bind]
  congr 1
  funext a
  cases readRegistrations env a with
  | error e =>
      cases e with
      | undefined => rfl
      | exn what =>
          have hcode : processingError ≠ noError := by decide
          simp only [Prog.pure_bind]
          rw [findTransform_eq env (by rfl), Prog.pure_bind,
            createLink_skip env (Or.inr (by exact hcode)), Prog.pure_bind,
            linkNewScene_eq env (by rfl)]
          rfl
  | ok regs =>
      simp only [Prog.pure_bind]
      rw [findTransform_eq env (by rfl), Prog.pure_bind]
      cases alreadyRegistered with
      | true =>
          rw [createLink_skip env (Or.inl (by rfl)), Prog.pure_bind, linkNewScene_eq env (by rfl)]
          rfl
      | false =>
          rw [createLink_eq env hscn hdev (by rfl) (by rfl), Prog.ask_bind]
          simp only [Prog.pure_bind]
          rw [linkNewScene_eq env (by rfl)]
          rfl

/-! ### The whole message -/

variable [LinearOrder R]

/-- The registration of a device to a scene. -/
def registration (objMsg : SceneList R) (scn : SceneDocument R) (dev : UserDevice R) :
    Db R (ProcessResult R) :=
  .ask (sceneExistsQuery scn.key) fun a =>
    orRefuse cfg objMsg (readSceneExists a) fun doesSceneExist =>
      if newDeviceKey uuids dev = "" then
        refuse cfg objMsg processingError "Error generating key for device"
      else if ¬ doesSceneExist then do
        let response ← processCreateMessage uuids.scene objMsg
        if ¬ response.successful then
          refuse cfg objMsg processingError "Scene not found and creation failed"
        else linkDevice env cfg uuids objMsg scn dev false
      else
        .ask (isUdRegisteredQuery scn.key) fun a =>
          orRefuse cfg objMsg (readUdRegistered env (newDeviceKey uuids dev) a)
            fun alreadyRegistered =>
              linkDevice env cfg uuids objMsg scn dev alreadyRegistered

omit [LinearOrder R] in
lemma checkScene_eq (hscn : objMsg.scenes = scn :: rest) :
    checkScene objMsg Reg.init = .ask (sceneExistsQuery scn.key) fun a =>
      match readSceneExists a with
      | .ok doesSceneExist => pure (entered false doesSceneExist false "")
      | .error (.exn what) => pure (Reg.init.fail processingError what)
      | .error .undefined => Prog.fail .undefined := by
  rw [checkScene, Reg.whenOk, if_pos (by rfl), getScene_zero hscn, Prog.ok_bind, sceneExists]
  rw [attempt_ask]
  congr 1
  funext a
  cases readSceneExists a with
  | ok doesSceneExist => rfl
  | error e => cases e <;> rfl

omit [LinearOrder R] in
lemma chooseKey_eq (hscn : objMsg.scenes = scn :: rest) (hdev : scn.devices = dev :: devs)
    (doesSceneExist : Bool) :
    chooseKey uuids objMsg (entered false doesSceneExist false "") = (pure
      (if newDeviceKey uuids dev = "" then
        (entered false doesSceneExist false "").fail processingError
          "Error generating key for device"
      else entered false doesSceneExist false (newDeviceKey uuids dev)) : Db R (Reg R)) := by
  rw [chooseKey, Reg.whenOk, if_pos (by rfl), getScene_zero hscn]
  simp only [Prog.ok_bind, getDevice_zero hdev, newDeviceKey]
  by_cases hkey : dev.key = ""
  · by_cases huuid : uuids.device = ""
    · simp [hkey, huuid]
      rfl
    · simp [hkey, huuid]
      rfl
  · simp [hkey]
    rfl

/-- The blocks behind the first one, after an error. -/
lemma blocks_of_error {r : Reg R} (hcode : r.currentErrCode ≠ noError)
    (hregs : r.registeredScenes = none) :
    (enterScene env uuids objMsg r >>= lastBlocks env cfg objMsg)
      = refuse cfg objMsg r.currentErrCode r.currentErrMsg := by
  have henter : enterScene env uuids objMsg r = pure r := if_neg hcode
  rw [henter, Prog.pure_bind, lastBlocks_of_error env cfg hcode hregs]

/-- Entering a scene that exists, and what follows. -/
lemma enterScene_exists (hscn : objMsg.scenes = scn :: rest) (hdev : scn.devices = dev :: devs) :
    (enterScene env uuids objMsg (entered false true false (newDeviceKey uuids dev)) >>=
        lastBlocks env cfg objMsg) =
      .ask (isUdRegisteredQuery scn.key) fun a =>
        orRefuse cfg objMsg (readUdRegistered env (newDeviceKey uuids dev) a)
          fun alreadyRegistered => linkDevice env cfg uuids objMsg scn dev alreadyRegistered := by
  have hblock : enterScene env uuids objMsg (entered false true false (newDeviceKey uuids dev)) =
      (entered false true false (newDeviceKey uuids dev)).attempt (do
        let already ← isUdRegistered env scn.key (newDeviceKey uuids dev)
        pure (entered false true already (newDeviceKey uuids dev))) := by
    rw [enterScene, Reg.whenOk, if_pos (by rfl), if_neg (by simp [entered]), getScene_zero hscn]
    rfl
  rw [hblock, isUdRegistered, attempt_ask, Prog.ask_bind]
  congr 1
  funext a
  cases readUdRegistered env (newDeviceKey uuids dev) a with
  | ok alreadyRegistered => exact lastBlocks_entered env cfg uuids hscn hdev false true _
  | error e =>
      cases e with
      | undefined => rfl
      | exn what =>
          exact lastBlocks_of_error env cfg (by simp [Reg.fail, processingError, noError]) rfl

/-- Creating a scene that does not exist, and what follows. -/
lemma enterScene_missing (hscn : objMsg.scenes = scn :: rest) (hdev : scn.devices = dev :: devs) :
    (enterScene env uuids objMsg (entered false false false (newDeviceKey uuids dev)) >>=
        lastBlocks env cfg objMsg) = (do
      let response ← processCreateMessage uuids.scene objMsg
      if ¬ response.successful then
        refuse cfg objMsg processingError "Scene not found and creation failed"
      else linkDevice env cfg uuids objMsg scn dev false) := by
  rw [enterScene, Reg.whenOk, if_pos (by rfl), if_pos (by simp [entered]), Prog.bind_assoc]
  congr 1
  funext response
  by_cases hresponse : response.successful
  · rw [if_neg (not_not.mpr hresponse), if_neg (not_not.mpr hresponse)]
    exact lastBlocks_entered env cfg uuids hscn hdev true false false
  · rw [if_pos hresponse, if_pos hresponse]
    exact lastBlocks_of_error env cfg (by simp [Reg.fail, processingError, noError]) rfl

theorem processRegistrationMessage_eq (hscn : objMsg.scenes = scn :: rest)
    (hdev : scn.devices = dev :: devs) :
    processRegistrationMessage env cfg uuids objMsg
      = registration env cfg uuids objMsg scn dev := by
  rw [processRegistrationMessage, checkFields_eq hscn hdev, checkScene_eq hscn, registration,
    Prog.ask_bind]
  congr 1
  funext a
  cases readSceneExists a with
  | error e =>
      cases e with
      | undefined => rfl
      | exn what =>
          have hchoose : chooseKey uuids objMsg (Reg.init.fail processingError what)
              = pure (Reg.init.fail processingError what) := rfl
          rw [Prog.pure_bind, hchoose]
          exact blocks_of_error env cfg uuids (by simp [Reg.fail, processingError, noError]) rfl
  | ok doesSceneExist =>
      rw [Prog.pure_bind, chooseKey_eq uuids hscn hdev, Prog.pure_bind, orRefuse]
      by_cases hkey : newDeviceKey uuids dev = ""
      · rw [if_pos hkey, if_pos hkey]
        exact blocks_of_error env cfg uuids (by simp [Reg.fail, processingError, noError]) rfl
      · rw [if_neg hkey, if_neg hkey]
        cases doesSceneExist with
        | true => exact enterScene_exists env cfg uuids hscn hdev
        | false => exact enterScene_missing env cfg uuids hscn hdev

omit [Field R] [LinearOrder R] in
/-- A message with a scene and a device in it. -/
lemma exists_head_device [CommRing R] {objMsg : SceneList R}
    (h : ¬ ∀ scn ∈ objMsg.scenes.head?, scn.devices = []) :
    ∃ scn rest dev devs, objMsg.scenes = scn :: rest ∧ scn.devices = dev :: devs := by
  push Not at h
  obtain ⟨scn, hscn, hdevs⟩ := h
  obtain ⟨rest, hrest⟩ := List.head?_eq_some_iff.mp hscn
  obtain ⟨dev, devs, hdev⟩ := List.exists_cons_of_ne_nil hdevs
  exact ⟨scn, rest, dev, devs, hrest, hdev⟩

/-- Another message is refused without a query. -/
theorem processRegistrationMessage_refused
    (h : ∀ scn ∈ objMsg.scenes.head?, scn.devices = []) :
    ∃ errMsg, processRegistrationMessage env cfg uuids objMsg
      = refuse cfg objMsg insuffDataError errMsg := by
  have hcheck : ∃ errMsg, checkFields objMsg Reg.init "registration"
      = (Reg.init : Reg R).fail insuffDataError errMsg := by
    rw [checkFields]
    split
    · exact ⟨_, rfl⟩
    · next scn rest hscn =>
        have hdev : scn.devices = [] := h scn (by rw [hscn]; rfl)
        rw [if_pos (by simp [SceneDocument.numDevices, hdev])]
        exact ⟨_, rfl⟩
  obtain ⟨errMsg, hcheck⟩ := hcheck
  refine ⟨errMsg, ?_⟩
  rw [processRegistrationMessage, hcheck]
  exact blocks_of_error env cfg uuids (by simp [Reg.fail, insuffDataError, noError]) rfl

/-! ### Runs that end without error -/

/-- A result that reports no error. -/
def Reports (resp : ProcessResult R) (msg : SceneList R) : Prop :=
  resp.message? = some msg ∧ msg.errCode = noError

omit [LinearOrder R] in
lemma registrationResponse_of_error {r : Reg R} (hcode : r.currentErrCode ≠ noError)
    {resp : ProcessResult R} {msg : SceneList R}
    (hresp : registrationResponse cfg objMsg r = .ok resp) : ¬ Reports resp msg := by
  rintro ⟨hmsg, hmsgcode⟩
  rw [registrationResponse] at hresp
  cases hscn : objMsg.getScene 0 with
  | error e => rw [hscn] at hresp; cases hresp
  | ok scn =>
      simp only [hscn, if_neg hcode] at hresp
      cases hresp
      cases hmsg
      exact hcode hmsgcode

omit [LinearOrder R] in
/-- The event information leaves the scenes and the error code alone. -/
lemma addEventInfo_ok {resp resp' : SceneList R} (h : addEventInfo cfg resp = .ok resp') :
    resp'.scenes = resp.scenes ∧ resp'.errCode = resp.errCode := by
  rw [addEventInfo] at h
  split at h
  · cases hinst : cfg.clymanInstance with
    | error e => rw [hinst] at h; cases h
    | ok inst =>
        rw [hinst] at h
        cases inst with
        | none => cases h; exact ⟨rfl, rfl⟩
        | some inst =>
            cases hport : stoi inst.2 with
            | error e => simp [hport, bind, Except.bind] at h
            | ok port =>
                simp only [hport, bind, Except.bind, pure, Except.pure] at h
                cases h
                exact ⟨rfl, rfl⟩
  · cases h
    exact ⟨rfl, rfl⟩

/-- The scene a successful registration is answered with. -/
def registeredScene (scn : SceneDocument R) (dk : String) : SceneDocument R :=
  { key := scn.key, devices := [{ key := dk, trans := some (registeredTransform env.glm) }] }

/-- The message of the response, before the event information is added. -/
def registeredMsg (objMsg : SceneList R) (scn : SceneDocument R) (dk : String) : SceneList R :=
  { (buildResponseScene sceneEnter noError "" objMsg.transactionId scn.key : SceneList R) with
    scenes := [registeredScene env scn dk] }

omit [LinearOrder R] in
/-- The response to a registration that comes through. -/
lemma registrationResponse_registered (hscn : objMsg.scenes = scn :: rest) {dk : String}
    {resp : ProcessResult R}
    (hresp : registrationResponse cfg objMsg (registered env dk) = .ok resp) :
    ∃ msg, Reports resp msg ∧
      msg.scenes = [registeredScene env scn dk, { key := "" }] := by
  rw [registrationResponse, getScene_zero hscn] at hresp
  have hinfo : (addEventInfo cfg (registeredMsg env objMsg scn dk) >>= fun resp =>
      pure { returnStr := .msg (resp.addScene { key := "" }) }) = .ok resp := hresp
  cases hadd : addEventInfo cfg (registeredMsg env objMsg scn dk) with
  | error e => rw [hadd] at hinfo; cases hinfo
  | ok added =>
      obtain ⟨hscenes, hcode⟩ := addEventInfo_ok cfg hadd
      rw [hadd] at hinfo
      cases hinfo
      exact ⟨_, ⟨rfl, hcode⟩, by rw [SceneList.addScene, hscenes]; rfl⟩

variable {σ : Type} (h : Query R → σ → Answer R × σ)

omit [LinearOrder R] in
lemma run_refuse_ok {errCode : ℤ} (hcode : errCode ≠ noError) {errMsg : String} {s s' : σ}
    {resp : ProcessResult R} {msg : SceneList R}
    (hrun : (refuse cfg objMsg errCode errMsg).run h s = (.ok resp, s')) : ¬ Reports resp msg :=
  registrationResponse_of_error cfg (r := Reg.init.fail errCode errMsg) hcode
    (congrArg Prod.fst hrun)

omit [LinearOrder R] in
lemma run_orRefuse_ok {α : Type} {result : Except Fail α}
    {next : α → Db R (ProcessResult R)} {s s' : σ} {resp : ProcessResult R} {msg : SceneList R}
    (hrun : (orRefuse cfg objMsg result next).run h s = (.ok resp, s'))
    (hresp : Reports resp msg) : ∃ a, result = .ok a ∧ (next a).run h s = (.ok resp, s') := by
  cases result with
  | ok a => exact ⟨a, rfl, hrun⟩
  | error e =>
      cases e with
      | undefined => cases congrArg Prod.fst hrun
      | exn what => exact absurd hresp (run_refuse_ok cfg h (by decide) hrun)

/-- How a registration gets into its scene: what it knows of the device and where
it leaves the store. Either the scene is there, or it is created. -/
inductive Enters (scn : SceneDocument R) (dev : UserDevice R) (s : σ) : Bool → σ → Prop
  | existing {alreadyRegistered : Bool} :
      readSceneExists (h (sceneExistsQuery scn.key) s).1 = .ok true →
      readUdRegistered env (newDeviceKey uuids dev)
        (h (isUdRegisteredQuery scn.key) (h (sceneExistsQuery scn.key) s).2).1
          = .ok alreadyRegistered →
      Enters scn dev s alreadyRegistered
        (h (isUdRegisteredQuery scn.key) (h (sceneExistsQuery scn.key) s).2).2
  | missing {l : List (List (Binding R))} :
      readSceneExists (h (sceneExistsQuery scn.key) s).1 = .ok false →
      newSceneKey uuids.scene scn ≠ "" →
      (h (createSceneQuery (newSceneKey uuids.scene scn) scn) (h (sceneExistsQuery scn.key) s).2).1
        = .rows l →
      Enters scn dev s false
        (h (createSceneQuery (newSceneKey uuids.scene scn) scn)
          (h (sceneExistsQuery scn.key) s).2).2

/-- Where a registration leaves the store, from where it has entered the
scene. -/
def linked (scn : SceneDocument R) (dev : UserDevice R) (alreadyRegistered : Bool) (s : σ) : σ :=
  let s' := (h (getRegistrationsQuery (newDeviceKey uuids dev)) s).2
  if alreadyRegistered then s' else (h (linkQuery env uuids scn dev) s').2

omit [LinearOrder R] in
lemma run_linkDevice_ok {already : Bool} {s s' : σ} {resp : ProcessResult R}
    {msg : SceneList R}
    (hrun : (linkDevice env cfg uuids objMsg scn dev already).run h s = (.ok resp, s'))
    (hresp : Reports resp msg) :
    registrationResponse cfg objMsg (registered env (newDeviceKey uuids dev)) = .ok resp ∧
      s' = linked env uuids h scn dev already s := by
  obtain ⟨regs, -, hnext⟩ := run_orRefuse_ok cfg h hrun hresp
  cases already with
  | true => exact ⟨congrArg Prod.fst hnext, (congrArg Prod.snd hnext).symm⟩
  | false => exact ⟨congrArg Prod.fst hnext, (congrArg Prod.snd hnext).symm⟩

/-- A scene is reported created only where the query has given rows. -/
lemma run_processCreateMessage_ok (hscn : objMsg.scenes = scn :: rest) {uuid : String}
    {s s' : σ} {response : ProcessResult R}
    (hrun : (processCreateMessage uuid objMsg).run h s = (.ok response, s'))
    (hok : response.successful = true) :
    newSceneKey uuid scn ≠ "" ∧
      (∃ l, (h (createSceneQuery (newSceneKey uuid scn) scn) s).1 = .rows l) ∧
      s' = (h (createSceneQuery (newSceneKey uuid scn) scn) s).2 := by
  rw [processCreateMessage, hscn] at hrun
  by_cases hkey : newSceneKey uuid scn = ""
  · simp only [if_pos hkey] at hrun
    cases congrArg Prod.fst hrun
    cases hok
  · simp only [if_neg hkey] at hrun
    refine ⟨hkey, ?_, (congrArg Prod.snd hrun).symm⟩
    have hread : readCreated _ (h (createSceneQuery (newSceneKey uuid scn) scn) s).1
        = .ok response := congrArg Prod.fst hrun
    cases hans : (h (createSceneQuery (newSceneKey uuid scn) scn) s).1 with
    | rows l => exact ⟨l, rfl⟩
    | null =>
        rw [hans] at hread
        cases hread
        cases hok
    | throw what =>
        rw [hans] at hread
        cases hread
        cases hok

/-- A registration that reports no error has entered the scene, and has asked
for the link unless the device was known in the scene. What the link query is
answered does not matter. -/
theorem run_registration_reports (hscn : objMsg.scenes = scn :: rest) {s s' : σ}
    {resp : ProcessResult R} {msg : SceneList R}
    (hrun : (registration env cfg uuids objMsg scn dev).run h s = (.ok resp, s'))
    (hresp : Reports resp msg) :
    newDeviceKey uuids dev ≠ "" ∧
      registrationResponse cfg objMsg (registered env (newDeviceKey uuids dev)) = .ok resp ∧
      ∃ already s₂, Enters env uuids h scn dev s already s₂ ∧
        s' = linked env uuids h scn dev already s₂ := by
  obtain ⟨doesSceneExist, hexists, hrun⟩ := run_orRefuse_ok cfg h hrun hresp
  by_cases hkey : newDeviceKey uuids dev = ""
  · rw [if_pos hkey] at hrun
    exact absurd hresp (run_refuse_ok cfg h (by decide) hrun)
  · rw [if_neg hkey] at hrun
    refine ⟨hkey, ?_⟩
    cases doesSceneExist with
    | true =>
        rw [if_neg (by simp)] at hrun
        obtain ⟨already, halready, hrun⟩ := run_orRefuse_ok cfg h hrun hresp
        obtain ⟨hresult, hs'⟩ := run_linkDevice_ok env cfg uuids h hrun hresp
        exact ⟨hresult, already, _, .existing hexists halready, hs'⟩
    | false =>
        rw [if_pos (by simp), Prog.run_bind] at hrun
        cases hcreate : (processCreateMessage uuids.scene objMsg).run h
            (h (sceneExistsQuery scn.key) s).2 with
        | mk r s₁ =>
            cases r with
            | error e => rw [hcreate] at hrun; cases congrArg Prod.fst hrun
            | ok response =>
                rw [hcreate] at hrun
                by_cases hok : response.successful = true
                · simp only [if_neg (not_not.mpr hok)] at hrun
                  obtain ⟨hnew, ⟨l, hl⟩, rfl⟩ := run_processCreateMessage_ok h hscn hcreate hok
                  obtain ⟨hresult, hs'⟩ := run_linkDevice_ok env cfg uuids h hrun hresp
                  exact ⟨hresult, false, _, .missing hexists hnew hl, hs'⟩
                · simp only [if_pos hok] at hrun
                  exact absurd hresp (run_refuse_ok cfg h (by decide) hrun)

/-! ### The registration that is made -/

section Attached

variable {g g' : Graph R} {sk dk conn host : String} {port : ℤ} {rprops : Props R}
  {ts : List (Node R × Rel R × Node R)}

omit [Field R] in
/-- Every new relationship registers the device to a scene with the key. -/
lemma mem_attached (hts : Attached "UserDevice" "TRANSFORM" (deviceProps dk conn host port) rprops
    (scenes g sk) g g' ts) {t : Node R × Rel R × Node R} (ht : t ∈ ts) :
    t.1 ∈ scenes g sk ∧ t.2.1.type = "TRANSFORM" ∧ HasKey "UserDevice" dk t.2.2 := by
  refine ⟨hts.src ▸ List.mem_map_of_mem ht, (hts.rel t ht).1, (hts.dst t ht).1, ?_⟩
  rw [(hts.dst t ht).2]
  rfl

omit [Field R] in
lemma registrationsTo_attached (hts : Attached "UserDevice" "TRANSFORM"
    (deviceProps dk conn host port) rprops (scenes g sk) g g' ts) :
    registrationsTo g' sk dk = registrationsTo g sk dk ++ ts := by
  rw [registrationsTo, hts.triples, List.filter_append, registrationsTo]
  congr 1
  refine List.filter_eq_self.mpr fun t ht => ?_
  obtain ⟨hsrc, htype, hdst⟩ := mem_attached hts ht
  exact decide_eq_true ⟨(mem_scenes.mp hsrc).2, htype, hdst⟩

omit [Field R] in
/-- There is a new relationship exactly where there is such a scene. -/
lemma attached_ne_nil (hts : Attached "UserDevice" "TRANSFORM" (deviceProps dk conn host port)
    rprops (scenes g sk) g g' ts) : ts ≠ [] ↔ scenes g sk ≠ [] := by
  rw [← hts.src, ne_eq, ne_eq, List.map_eq_nil_iff]

end Attached

end Registration

/-! ### A message -/

/-- A device. -/
def someDevice : UserDevice ℚ :=
  { key := "d", connectionString := "tcp", hostname := "127.0.0.1", port := 5000 }

/-- A scene with the device. -/
def someScene : SceneDocument ℚ := { key := "s", devices := [someDevice] }

/-- A registration of the device to the scene. -/
def someMsg : SceneList ℚ := { scenes := [someScene] }

lemma scenes_someMsg : someMsg.scenes = [someScene] := rfl

lemma devices_someScene : someScene.devices = [someDevice] := rfl

lemma newDeviceKey_someDevice : newDeviceKey ⟨"", ""⟩ someDevice ≠ "" := by decide

end CrazyIvan
