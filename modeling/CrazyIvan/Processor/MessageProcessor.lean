import CrazyIvan.Processor.CrudMessageProcessor

/-!
The device messages: registration, deregistration and alignment.

`processRegistrationMessage` is a chain of blocks over the variables of the
source's function (`Reg`). Most blocks are guarded by `currentErrCode`, and most
calls of the query helpers by a `try` that turns an exception into that code.
-/

namespace CrazyIvan

open Cypher Resumption

section Devices

variable {R : Type} [Field R] [LinearOrder R]

/-! ### Configuration -/

/-- The number a text begins with. -/
def stoi (s : String) : Except Fail ℤ :=
  let isSpace := fun c : Char => c = ' ' ∨ (9 ≤ c.toNat ∧ c.toNat ≤ 13)
  let rest := s.toList.dropWhile fun c => decide (isSpace c)
  let (neg, rest) := match rest with
    | '-' :: rest => (true, rest)
    | '+' :: rest => (false, rest)
    | rest => (false, rest)
  let digits := rest.takeWhile Char.isDigit
  let n : ℤ := digits.foldl (fun n c => 10 * n + (c.toNat - 48 : ℕ)) 0
  let n := if neg then -n else n
  if digits = [] then .error (.exn "stoi")
  else if n < -2147483648 ∨ 2147483647 < n then .error (.exn "stoi")
  else .ok n

/-- The configuration read for a registration, and the instance found in the
cluster, if there is one: its address and its port. -/
structure Config where
  aesEnabled : String
  aesoutPassword : String
  aesoutSalt : String
  aesoutKey : String
  aesoutIv : String
  aesregPassword : String
  aesregSalt : String
  aesregKey : String
  aesregIv : String
  clymanInstance : Except Fail (Option (String × String))

/-- A configuration without encryption. -/
def plainCfg : Config := ⟨"false", "", "", "", "", "", "", "", "", .ok none⟩

/-- The ids generated for one message, for a device and for a scene. -/
structure Uuids where
  device : String
  scene : String

/-! ### Responses -/

/-- Create a response in the form of a scene. -/
def buildResponseScene (msgType errCode : ℤ) (errMsg tranId sceneId : String) : SceneList R :=
  { msgType, errCode, errMsg, transactionId := tranId, scenes := [{ key := sceneId }] }

/-- Create a response in the form of a string. -/
def buildStringResponse (msgType errCode : ℤ) (errMsg tranId sceneId : String) :
    ProcessResult R :=
  { returnStr := .msg (buildResponseScene msgType errCode errMsg tranId sceneId) }

/-- `catch (std::exception& e)`. -/
def catching {α : Type} (p : Db R α) (g : String → Db R α) : Db R α :=
  p.handle fun
    | .exn what => g what
    | .undefined => Prog.fail .undefined

/-! ### Registration -/

variable (env : Env R)

/-- The variables of the registration. -/
structure Reg (R : Type) [CommRing R] where
  isFirstDevice : Bool
  doesSceneExist : Bool
  alreadyRegistered : Bool
  previouslyRegistered : Bool
  currentErrCode : ℤ
  currentErrMsg : String
  originSceneId : String
  newId : String
  registeredScenes : Option (SceneList R)
  newTransform : Transform R

namespace Reg

def init : Reg R where
  isFirstDevice := false
  doesSceneExist := true
  alreadyRegistered := false
  previouslyRegistered := false
  currentErrCode := noError
  currentErrMsg := ""
  originSceneId := ""
  newId := ""
  registeredScenes := none
  newTransform := Transform.new

def fail (r : Reg R) (errCode : ℤ) (errMsg : String) : Reg R :=
  { r with currentErrCode := errCode, currentErrMsg := errMsg }

/-- A block that is run while there is no error. -/
def whenOk (r : Reg R) (block : Db R (Reg R)) : Db R (Reg R) :=
  if r.currentErrCode = noError then block else pure r

/-- A block in a `try` whose handler sets the error. -/
def attempt (r : Reg R) (block : Db R (Reg R)) : Db R (Reg R) :=
  catching block fun what => pure (r.fail processingError what)

end Reg

/-- Basic checks to ensure we have the needed fields. -/
def checkFields (objMsg : SceneList R) (r : Reg R) (what : String) : Reg R :=
  match objMsg.scenes with
  | [] => r.fail insuffDataError ("Scene needed to process " ++ what)
  | scn :: _ =>
      if scn.numDevices < 1 then r.fail insuffDataError ("Device needed to process " ++ what)
      else r

/-- Determine if the scene exists in the DB. -/
def checkScene (objMsg : SceneList R) (r : Reg R) : Db R (Reg R) :=
  r.whenOk <| r.attempt do
    let scn ← Prog.lift (objMsg.getScene 0)
    let doesSceneExist ← sceneExists scn.key
    pure { r with doesSceneExist }

/-- Build a new device key, if necessary. -/
def chooseKey (uuids : Uuids) (objMsg : SceneList R) (r : Reg R) : Db R (Reg R) :=
  r.whenOk do
    let scn ← Prog.lift (objMsg.getScene 0)
    let dev ← Prog.lift (scn.getDevice 0)
    if dev.key = "" then
      let r := { r with newId := uuids.device }
      if r.newId = "" then pure (r.fail processingError "Error generating key for device")
      else pure r
    else pure { r with newId := dev.key }

/-- Create a missing scene; in an existing one look for the device. -/
def enterScene (uuids : Uuids) (objMsg : SceneList R) (r : Reg R) : Db R (Reg R) :=
  r.whenOk <|
    if ¬ r.doesSceneExist then do
      let r := { r with isFirstDevice := true }
      let response ← processCreateMessage uuids.scene objMsg
      if ¬ response.successful then
        pure (r.fail processingError "Scene not found and creation failed")
      else pure r
    else
      r.attempt do
        let scn ← Prog.lift (objMsg.getScene 0)
        let alreadyRegistered ← isUdRegistered env scn.key r.newId
        pure { r with alreadyRegistered }

/-- Find other scenes that the device is registered to. -/
def findRegistrations (r : Reg R) : Db R (Reg R) := do
  let r ← r.whenOk <| r.attempt do
    let registeredScenes ← getRegistrations env r.newId
    pure { r with registeredScenes }
  if r.registeredScenes.isNone then pure { r with previouslyRegistered := false }
  else pure r

/-- The search for a path from one of the scenes the device is registered to.
`deleted` says that `st_result` still points to a result that was deleted. -/
def searchPaths (objMsg : SceneList R) :
    List (SceneDocument R) → Bool → Reg R → Db R (Reg R)
  | [], _, r => pure r
  | scn :: rest, deleted, r => do
      let found : Except String (SceneTransformResult R) ←
        catching
          (do
            let target ← Prog.lift (objMsg.getScene 0)
            let stResult ← calculateSceneSceneTransform env scn.key target.key
            pure (.ok stResult))
          fun what => pure (.error what)
      match found with
      | .error what =>
          if deleted then Prog.fail .undefined
          else searchPaths objMsg rest deleted (r.fail processingError what)
      | .ok stResult =>
          if stResult.resultFlag then
            pure { r with
              newTransform := r.newTransform.addTransform env.glm stResult.transform false
              originSceneId := scn.key }
          else searchPaths objMsg rest true r

/-- The transform of the new registration: the identity, unless a path from an
earlier scene is found. -/
def findTransform (objMsg : SceneList R) (r : Reg R) : Db R (Reg R) :=
  let r := { r with newTransform := (Transform.new.translate 0 0).rotate env.glm 0 0 }
  if ¬ r.isFirstDevice ∧ r.doesSceneExist ∧ ¬ r.alreadyRegistered ∧
      r.currentErrCode = noError ∧ r.previouslyRegistered then
    match r.registeredScenes with
    | some registered => searchPaths env objMsg registered.scenes false r
    | none => Prog.fail .undefined
  else pure r

/-- Create the registration link in the DB. -/
def createLink (objMsg : SceneList R) (r : Reg R) : Db R (Reg R) :=
  if ¬ r.alreadyRegistered ∧ r.currentErrCode = noError then
    r.attempt do
      let scn ← Prog.lift (objMsg.getScene 0)
      let dev ← Prog.lift (scn.getDevice 0)
      registerDeviceToScene env r.newId scn.key r.newTransform r.previouslyRegistered
        dev.connectionString dev.hostname dev.port
      pure r
  else pure r

/-- Link a new scene to the scenes the device comes from. -/
def linkNewScene (objMsg : SceneList R) (r : Reg R) : Db R (Reg R) :=
  if r.previouslyRegistered ∧ r.isFirstDevice ∧ r.currentErrCode = noError then do
    processUDUDTransformation env r.registeredScenes objMsg
    pure r
  else pure r

/-- Add the event information to the response. -/
def addEventInfo (cfg : Config) (resp : SceneList R) : Except Fail (SceneList R) := do
  if cfg.aesEnabled = "true" then
    let resp ← match ← cfg.clymanInstance with
      | some (address, port) => do
          let port ← stoi port
          pure { resp with eventDestinationHost := address, eventDestinationPort := some port }
      | none => pure resp
    pure { resp with
      encryptionPassword := cfg.aesregPassword
      encryptionSalt := cfg.aesregSalt
      encryptionKey := cfg.aesregKey
      encryptionIv := cfg.aesregIv
      decryptionPassword := cfg.aesoutPassword
      decryptionSalt := cfg.aesoutSalt
      decryptionKey := cfg.aesoutKey
      decryptionIv := cfg.aesoutIv }
  else pure resp

/-- Build a response. -/
def registrationResponse (cfg : Config) (objMsg : SceneList R) (r : Reg R) :
    Except Fail (ProcessResult R) := do
  let scn ← objMsg.getScene 0
  let resp := buildResponseScene sceneEnter r.currentErrCode r.currentErrMsg
    objMsg.transactionId scn.key
  if r.currentErrCode = noError then
    let dev : UserDevice R := { key := r.newId, trans := some r.newTransform }
    let resp ← resp.updateScene 0 fun s => s.addDevice dev
    let resp ← addEventInfo cfg resp
    let resp := resp.addScene { key := r.originSceneId }
    pure { returnStr := .msg resp }
  else pure { returnStr := .msg resp }

/-- Register a device to a scene: predict a coordinate transform for the device
and pass it back in the response. -/
def processRegistrationMessage (cfg : Config) (uuids : Uuids) (objMsg : SceneList R) :
    Db R (ProcessResult R) := do
  let r := checkFields objMsg Reg.init "registration"
  let r ← checkScene objMsg r
  let r ← chooseKey uuids objMsg r
  let r ← enterScene env uuids objMsg r
  let r ← findRegistrations env r
  let r ← findTransform env objMsg r
  let r ← createLink env objMsg r
  let r ← linkNewScene env objMsg r
  Prog.lift (registrationResponse cfg objMsg r)

/-! ### Deregistration -/

/-- The state of a message that only keeps its error. -/
structure Errs where
  currentErrCode : ℤ
  currentErrMsg : String

/-- The field checks, as an error code and its message. -/
def fieldErrs (objMsg : SceneList R) (what : String) : Errs :=
  let r := checkFields objMsg Reg.init what
  ⟨r.currentErrCode, r.currentErrMsg⟩

/-- Remove a device from a scene. -/
def processDeregistrationMessage (objMsg : SceneList R) : Db R (ProcessResult R) := do
  let e := fieldErrs objMsg "registration"
  let e ←
    if e.currentErrCode = noError then
      catching
        (do
          let scn ← Prog.lift (objMsg.getScene 0)
          let dev ← Prog.lift (scn.getDevice 0)
          removeDeviceFromScene dev.key scn.key
          pure e)
        fun what => pure ⟨processingError, what⟩
    else pure e
  let scn ← Prog.lift (objMsg.getScene 0)
  pure (buildStringResponse sceneLeave e.currentErrCode e.currentErrMsg objMsg.transactionId
    scn.key)

/-! ### Alignment -/

/-- The variables of the alignment. -/
structure Align (R : Type) [CommRing R] where
  currentErrCode : ℤ
  currentErrMsg : String
  registrationFound : Bool
  registeredScenes : Option (SceneList R)

namespace Align

def whenOk (a : Align R) (block : Db R (Align R)) : Db R (Align R) :=
  if a.currentErrCode = noError then block else pure a

def attempt (a : Align R) (block : Db R (Align R)) : Db R (Align R) :=
  catching block fun what =>
    pure { a with currentErrCode := processingError, currentErrMsg := what }

end Align

/-- Update the transformation between the scene and user device. -/
def updateRegistration (objMsg : SceneList R) (a : Align R) : Db R (Align R) :=
  a.whenOk <| a.attempt do
    let scn ← Prog.lift (objMsg.getScene 0)
    let dev ← Prog.lift (scn.getDevice 0)
    let registrationFound ← updateDeviceRegistration env dev.key scn.key dev.getTransform
    pure { a with registrationFound }

/-- Without an existing registration the message is not found. -/
def checkFound (a : Align R) : Align R :=
  if ¬ a.registrationFound ∧ a.currentErrCode = noError then
    { a with currentErrCode := notFound, currentErrMsg := "No Existing Registrations Found" }
  else a

/-- Find scenes that the object is registered to. -/
def findAligned (objMsg : SceneList R) (a : Align R) : Db R (Align R) :=
  a.whenOk <| a.attempt do
    let scn ← Prog.lift (objMsg.getScene 0)
    let dev ← Prog.lift (scn.getDevice 0)
    let registeredScenes ← getRegistrations env dev.key
    pure { a with registeredScenes }

/-- Correct or create scene-scene transforms. -/
def linkAligned (objMsg : SceneList R) (a : Align R) : Db R (Align R) :=
  a.whenOk <| a.attempt do
    processUDUDTransformation env a.registeredScenes objMsg
    pure a

/-- Align an objects transformation with a scene. -/
def processDeviceAlignmentMessage (objMsg : SceneList R) : Db R (ProcessResult R) := do
  let e := fieldErrs objMsg "alignment"
  let a : Align R := ⟨e.currentErrCode, e.currentErrMsg, false, none⟩
  let a ← updateRegistration env objMsg a
  let a := checkFound a
  let a ← findAligned env objMsg a
  let a ← linkAligned env objMsg a
  let scn ← Prog.lift (objMsg.getScene 0)
  pure (buildStringResponse deviceAlign a.currentErrCode a.currentErrMsg objMsg.transactionId
    scn.key)

end Devices

end CrazyIvan
