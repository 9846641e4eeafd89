import CrazyIvan.Api.JsonSceneList
import CrazyIvan.Controller.SceneHandlerFactory
import CrazyIvan.Processor.MessageProcessor

/-!
The request handlers that ask the processor.

* `Exchange`: the message that a handler hands to the processor, and how it answers
  the result.
* `SceneBaseRequestHandler`, `SceneKeyRequestHandler`, `SceneUpdateRequestHandler`,
  `AssetUpdateRequestHandler`: the four handlers.
* `Handler.exchange`: the exchange of a handler that the factory made.

The body of a request is given as parsed: a document, or the text of the parse
error. The text that a message is written as is a parameter.
-/

namespace CrazyIvan

open Cypher Resumption

/-! ### Responses -/

/-- Status and body. -/
structure Response (R : Type) [CommRing R] where
  status : ℕ := 200
  body : ReturnStr R

/-- The status for an error code. -/
def statusOf (errCode : ℤ) : ℕ :=
  if errCode = notFound then 404 else if errCode ≠ noError then 500 else 200

section Handlers

variable {R : Type} [Field R] [LinearOrder R]

/-- What a handler asks of the processor, and how it answers the result. -/
structure Exchange (R : Type) [Field R] where
  ask : Db R (ProcessResult R)
  respond : ProcessResult R → Response R

def Exchange.run (x : Exchange R) : Db R (Response R) := do
  let result ← x.ask
  pure (x.respond result)

variable (written : SceneList R → String)

/-- `get_return_string`. -/
def ReturnStr.text : ReturnStr R → String
  | .str s => s
  | .msg m => written m

/-- The message that a handler builds itself: the key that was returned, or the
error. -/
def responseBody (msgType : ℤ) (result : ProcessResult R) : SceneList R :=
  if result.successful then
    { msgType, errCode := noError, scenes := [{ key := result.returnStr.text written }] }
  else { msgType, errCode := result.errCode, errMsg := result.errDesc }

/-- The response to a body that is not parsed. -/
def parseErrorResponse (msgType : ℤ) (what : String) : Response R where
  status := 400
  body := .msg { msgType, errCode := translationError, errMsg := what }

variable (env : Env R)

/-! ### Scenes -/

namespace SceneBaseRequestHandler

variable (cfg : Config) (uuids : Uuids)

/-- The message for a creation: its first scene gets the key of the path, if there is one. -/
def createMessage (inputId : String) (inpDoc : SceneList R) : SceneList R :=
  match inpDoc.scenes with
  | scn :: rest =>
      if inputId = "" then inpDoc
      else { inpDoc with scenes := { scn with key := inputId } :: rest }
  | [] => inpDoc

/-- The message is processed by its type; for any other type there is no
result. -/
def process (msgType : ℤ) (inputId : String) (inpDoc : SceneList R) : Db R (ProcessResult R) :=
  let inpDoc := { inpDoc with msgType }
  if msgType = sceneEnter then processRegistrationMessage env cfg uuids inpDoc
  else if msgType = sceneLeave then processDeregistrationMessage inpDoc
  else if msgType = sceneCrt then processCreateMessage uuids.scene (createMessage inputId inpDoc)
  else if msgType = sceneGet then processRetrieveMessage env inpDoc
  else if msgType = deviceAlign then processDeviceAlignmentMessage env inpDoc
  else if msgType = deviceGet then processDeviceGetMessage env inpDoc
  else Prog.fail .undefined

/-- The types whose result is a message already. -/
def passesOn (msgType : ℤ) : Prop :=
  msgType = sceneGet ∨ msgType = sceneEnter ∨ msgType = sceneLeave ∨ msgType = deviceAlign ∨
    msgType = deviceGet

instance (msgType : ℤ) : Decidable (passesOn msgType) := by
  unfold passesOn; infer_instance

def respond (msgType : ℤ) (result : ProcessResult R) : Response R where
  status := statusOf result.errCode
  body :=
    if result.successful ∧ passesOn msgType then result.returnStr
    else .msg (responseBody written msgType result)

def exchange (msgType : ℤ) (inputId : String) (doc : Json.Value R) : Exchange R where
  ask := do
    let inpDoc ← Prog.lift (ofDocument env.glm doc)
    process env cfg uuids msgType inputId inpDoc
  respond := respond written msgType

def handleRequest (msgType : ℤ) (inputId : String) :
    Except String (Json.Value R) → Db R (Response R)
  | .error what => pure (parseErrorResponse msgType what)
  | .ok doc => (exchange written env cfg uuids msgType inputId doc).run

end SceneBaseRequestHandler

namespace SceneKeyRequestHandler

/-- The message for a scene with the key. -/
def queryBody (inputKey : String) (msgType : ℤ) : SceneList R :=
  { msgType, scenes := [{ key := inputKey }] }

/-- A scene with the key is deleted or retrieved; for any other type there is no
result. -/
def process (inputKey : String) (msgType : ℤ) : Db R (ProcessResult R) :=
  if msgType = sceneDel then processDeleteMessage (queryBody inputKey msgType)
  else if msgType = sceneGet then processRetrieveMessage env (queryBody inputKey msgType)
  else Prog.fail .undefined

/-- The body for a retrieved scene is what the processor returned. -/
def respond (msgType : ℤ) (result : ProcessResult R) : Response R where
  status := statusOf (responseBody written msgType result).errCode
  body :=
    if msgType = sceneDel then .msg (responseBody written msgType result)
    else if msgType = sceneGet then result.returnStr
    else .str ""

def exchange (inputKey : String) (msgType : ℤ) : Exchange R where
  ask := process env inputKey msgType
  respond := respond written msgType

def handleRequest (inputKey : String) (msgType : ℤ) : Db R (Response R) :=
  (exchange written env inputKey msgType).run

end SceneKeyRequestHandler

namespace SceneUpdateRequestHandler

/-- The message for the first scene, which is added if there is none. -/
def updateMessage (inputKey : String) (inpDoc : SceneList R) : SceneList R :=
  { inpDoc with
    msgType := sceneCrt
    scenes :=
      match inpDoc.scenes with
      | [] => [{ key := inputKey }]
      | scn :: rest => { scn with key := inputKey } :: rest }

def process (inputKey : String) (inpDoc : SceneList R) : Db R (ProcessResult R) :=
  processUpdateMessage (updateMessage inputKey inpDoc)

def respond (result : ProcessResult R) : Response R where
  status := statusOf (responseBody written sceneUpd result).errCode
  body := .msg (responseBody written sceneUpd result)

def exchange (inputKey : String) (doc : Json.Value R) : Exchange R where
  ask := do
    let inpDoc ← Prog.lift (ofDocument env.glm doc)
    process inputKey inpDoc
  respond := respond written

def handleRequest (inputKey : String) : Except String (Json.Value R) → Db R (Response R)
  | .error what => pure (parseErrorResponse sceneUpd what)
  | .ok doc => (exchange written env inputKey doc).run

end SceneUpdateRequestHandler

namespace AssetUpdateRequestHandler

/-- The message for an update of the scene that appends or removes one asset. -/
def updateMessage (sceneKey assetKey : String) (msgType : ℤ) : SceneList R :=
  let updateBody : SceneList R :=
    { msgType := sceneUpd, scenes := [{ key := sceneKey, assets := [assetKey] }] }
  if msgType = assetAdd then { updateBody with opType := opAppend }
  else if msgType = assetDel then { updateBody with opType := opRemove }
  else updateBody

def process (sceneKey assetKey : String) (msgType : ℤ) : Db R (ProcessResult R) :=
  processUpdateMessage (updateMessage sceneKey assetKey msgType)

/-- The status is not set. -/
def respond (result : ProcessResult R) : Response R where
  body := .msg (responseBody written sceneUpd result)

def exchange (sceneKey assetKey : String) (msgType : ℤ) : Exchange R where
  ask := process sceneKey assetKey msgType
  respond := respond written

def handleRequest (sceneKey assetKey : String) (msgType : ℤ) : Db R (Response R) :=
  (exchange written sceneKey assetKey msgType).run

end AssetUpdateRequestHandler

/-! ### The handlers of the factory -/

/-- The exchange of a handler with the processor, for a body that is parsed. The
other handlers do not ask the processor. -/
def Handler.exchange (cfg : Config) (uuids : Uuids) (doc : Json.Value R) :
    Handler → Option (Exchange R)
  | .sceneBase msgType _ id =>
      some (SceneBaseRequestHandler.exchange written env cfg uuids msgType id doc)
  | .sceneUpdate key _ => some (SceneUpdateRequestHandler.exchange written env key doc)
  | .sceneKey key msgType _ => some (SceneKeyRequestHandler.exchange written env key msgType)
  | .assetUpdate scene asset msgType =>
      some (AssetUpdateRequestHandler.exchange written scene asset msgType)
  | .cacheUpdate _ _ | .heartbeat => none

end Handlers

end CrazyIvan
