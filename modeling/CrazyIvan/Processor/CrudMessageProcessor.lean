import CrazyIvan.Query.AlgorithmQueryHelper

/-!
The scene messages: create, update, retrieve and delete, each one query whose
answer becomes the result.

A uuid that a message may need comes with the call; the empty string is a
generator that failed.
-/

namespace CrazyIvan

open Cypher Resumption

section Scenes

variable {R : Type} [Field R] [LinearOrder R]

/-! ### Create -/

/-- The result of a create query. -/
def readCreated (response : ProcessResult R) : Answer R → Except Fail (ProcessResult R)
  | .throw _ | .null => .ok (response.setError processingError "Error processing Scene Create")
  | .rows [] => .ok response
  | .rows ((.node _ :: _) :: _) => .ok response
  | .rows ((_ :: _) :: _) => .ok (response.setError notFound "Document not found")
  | .rows ([] :: _) => .error .undefined

/-- The query that creates a scene under a key. -/
def createSceneQuery (newId : String) (scn : SceneDocument R) : Query R where
  text := generateSceneCrudQuery newId .createQueryType opAppend scn
  params := generateSceneQueryParameters newId .createQueryType (some scn)

/-- The key a scene is created under: its own, else a generated one. -/
def newSceneKey (uuid : String) (scn : SceneDocument R) : String :=
  if scn.key = "" then uuid else scn.key

/-- Create a new scene. -/
def processCreateMessage (uuid : String) (objMsg : SceneList R) : Db R (ProcessResult R) :=
  let response : ProcessResult R := {}
  match objMsg.scenes with
  | scn :: _ =>
      let newId := newSceneKey uuid scn
      if newId = "" then
        pure (response.setError processingError "Error generating key for scene")
      else
        askAndRead (createSceneQuery newId scn)
          (readCreated (response.setReturnString (.str newId)))
  | [] => pure (response.setError processingError "No Scene Data recieved")

/-! ### Update -/

/-- The result of an update or a delete query. -/
def readChanged (response : ProcessResult R) (key failed : String) :
    Answer R → Except Fail (ProcessResult R)
  | .throw _ | .null => .ok (response.setError processingError failed)
  | .rows [] => .ok (response.setReturnString (.str key))
  | .rows ((.node _ :: _) :: _) => .ok (response.setReturnString (.str key))
  | .rows ((_ :: _) :: _) => .ok (response.setError notFound "Document not found")
  | .rows ([] :: _) => .error .undefined

/-- There is nothing to update with. -/
def noUpdateFields (scn : SceneDocument R) : Prop :=
  scn.name = "" ∧ scn.latitude = -9999 ∧ scn.longitude = -9999 ∧ scn.key = "" ∧
    scn.region = "" ∧ scn.description = "" ∧ scn.user = "" ∧ scn.thumbnail = "" ∧
    scn.numTags = 0 ∧ scn.numAssets = 0

instance (scn : SceneDocument R) : Decidable (noUpdateFields scn) := by
  unfold noUpdateFields; infer_instance

def updateSceneQuery (opType : ℤ) (scn : SceneDocument R) : Query R where
  text := generateSceneCrudQuery scn.key .updateQueryType opType scn
  params := generateSceneQueryParameters scn.key .updateQueryType (some scn)

/-- Update the details of a scene entry. -/
def processUpdateMessage (objMsg : SceneList R) : Db R (ProcessResult R) :=
  let response : ProcessResult R := {}
  match objMsg.scenes with
  | scn :: _ =>
      if noUpdateFields scn then
        pure (response.setError insuffDataError "Insufficient fields in message")
      else
        askAndRead (updateSceneQuery objMsg.opType scn)
          (readChanged response scn.key "Error processing Scene Get")
  | [] => pure (response.setError processingError "No Scene Data recieved")

/-! ### Retrieve -/

variable (env : Env R)

/-- The loop over the rows, up to the first one that is neither node nor
relationship. -/
def retrievedScenes : List (List (Binding R)) → Except Fail (List (SceneDocument R))
  | [] => .ok []
  | row :: rest =>
      match row with
      | obj :: _ =>
          match elementProps obj with
          | some props => do
              let data ← assignSceneProperties env props {}
              let scenes ← retrievedScenes rest
              pure (data :: scenes)
          | none => .ok []
      | [] => .error .undefined

/-- The result of a retrieve query: the scenes as a message. -/
def readRetrieved (response : ProcessResult R) (transactionId : String) :
    Answer R → Except Fail (ProcessResult R)
  | .throw what => .error (.exn what)
  | .null => .ok (response.setError processingError "Error processing Scene Get")
  | .rows rows => do
      let scenes ← retrievedScenes env rows
      if scenes.length > 0 then
        pure (response.setReturnString (.msg
          { errCode := noError, msgType := sceneGet, transactionId, scenes }))
      else pure (response.setError notFound "Document not found")

def retrieveSceneQuery (objMsg : SceneList R) (scn : SceneDocument R) : Query R where
  text := generateSceneCrudQuery scn.key .getQueryType opAppend scn
  params := generateQueryParameters scn.key .getQueryType (some scn) objMsg.startRecord
    objMsg.numRecords

/-- A retrieve message is accepted for public scenes or with a user. -/
def retrieveAccepted (scn : SceneDocument R) : Prop :=
  scn.isPublic ∨ ¬ (scn.user = "" ∨ scn.isPublic)

instance (scn : SceneDocument R) : Decidable (retrieveAccepted scn) := by
  unfold retrieveAccepted; infer_instance

/-- Query for scene data. An exception becomes the error of the result. -/
def processRetrieveMessage (objMsg : SceneList R) : Db R (ProcessResult R) :=
  let response : ProcessResult R := {}
  match objMsg.scenes with
  | scn :: _ =>
      if retrieveAccepted scn then
        (askAndRead (retrieveSceneQuery objMsg scn)
          (readRetrieved env response objMsg.transactionId)).handle fun
            | .exn what => pure (response.setError processingError what)
            | .undefined => Prog.fail .undefined
      else pure (response.setError processingError "Insufficient Scene Data recieved")
  | [] => pure (response.setError processingError "Insufficient Scene Data recieved")

/-! ### Delete -/

def deleteSceneQuery (key : String) : Query R where
  text := "MATCH (scn:Scene {key: {inp_key}}) DETACH DELETE scn RETURN scn"
  params := generateSceneQueryParameters key .deleteQueryType none

/-- Delete a scene. -/
def processDeleteMessage (objMsg : SceneList R) : Db R (ProcessResult R) :=
  let response : ProcessResult R := {}
  match objMsg.scenes with
  | scn :: _ =>
      if scn.key = "" then
        pure (response.setError insuffDataError "Insufficient fields in message")
      else
        askAndRead (deleteSceneQuery scn.key)
          (readChanged response scn.key "Error processing Scene Delete")
  | [] => pure (response.setError processingError "No Scene Data recieved")

/-! ### Devices -/

def deviceQuery (deviceKey : String) : Query R where
  text := "MATCH (ud:UserDevice {key: {inp_key}}) RETURN ud"
  params := [("inp_key", .str deviceKey)]

/-- The message that carries a retrieved device, if there is one. -/
def deviceMessage (transactionId : String) (devices : List (UserDevice R)) : SceneList R :=
  { errCode := noError, msgType := deviceGet, transactionId, scenes := [{ devices }] }

/-- The result of a device query. What is no node is an error, and the message is
set behind it all the same. -/
def readDeviceResult (response : ProcessResult R) (transactionId deviceKey : String) :
    Answer R → Except Fail (ProcessResult R)
  | .throw _ | .null => .ok (response.setError processingError "Error processing Device Get")
  | .rows [] => .ok (response.setError notFound "Unable to find Device")
  | .rows ((.node n :: _) :: _) => do
      let data ← assignDeviceProperties env n.props { key := deviceKey }
      pure (response.setReturnString (.msg (deviceMessage transactionId [data])))
  | .rows ((_ :: _) :: _) =>
      .ok ((response.setError notFound "Unable to find Device").setReturnString
        (.msg (deviceMessage transactionId [])))
  | .rows ([] :: _) => .error .undefined

/-- Retrieve a device. -/
def processDeviceGetMessage (msg : SceneList R) : Db R (ProcessResult R) :=
  let response : ProcessResult R := {}
  match msg.scenes with
  | scn :: _ =>
      match scn.devices with
      | dev :: _ =>
          askAndRead (deviceQuery dev.key) (readDeviceResult env response msg.transactionId dev.key)
      | [] => pure (response.setError insuffDataError "Insufficient fields in message")
  | [] => pure (response.setError processingError "No Device Data recieved")

end Scenes

end CrazyIvan
