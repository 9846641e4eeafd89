import CrazyIvan.Query.SceneQueryHelper

/-!
The device queries of the source: the registrations of user devices to scenes,
stored as `TRANSFORM` relationships from the scene to the device.
-/

namespace CrazyIvan

open Cypher Resumption

section DeviceQueries

variable {R : Type} (env : Env R)

/-! ### Is a device registered -/

def isUdRegisteredQuery (inpString : String) : Query R where
  text := "MATCH (scn:Scene {key: {inp_key}})-[tr:TRANSFORM]->(ud:UserDevice)" ++ " RETURN ud"
  params := [("inp_key", .str inpString)]

/-- The loop over the devices of the scene, up to the first row that is no
node. -/
def scanDevices (inpDevice : String) : List (List (Binding R)) → Bool → Except Fail Bool
  | [], retVal => .ok retVal
  | (.node n :: _) :: rest, retVal => do
      let dbKey ← readElement env.getStringElement n.props "key" ""
      scanDevices inpDevice rest (if dbKey = inpDevice then true else retVal)
  | (_ :: _) :: _, retVal => .ok retVal
  | [] :: _, _ => .error .undefined

/-- No result at all, an exception included, reads as not registered. -/
def readUdRegistered (inpDevice : String) : Answer R → Except Fail Bool
  | .throw _ | .null => .ok false
  | .rows rows => scanDevices env inpDevice rows false

/-- Determine if the given user device is registered to the given scene. -/
def isUdRegistered (inpString inpDevice : String) : Db R Bool :=
  askAndRead (isUdRegisteredQuery inpString) (readUdRegistered env inpDevice)

/-! ### The registrations of a device -/

def getRegistrationsQuery (inpDevice : String) : Query R where
  text := "MATCH (scn:Scene)-[tr:TRANSFORM]->(ud:UserDevice {key: {inp_key}})" ++
    " RETURN scn, tr, ud"
  params := [("inp_key", .str inpDevice)]

/-- The properties of a node or a relationship. -/
def elementProps : Binding R → Option (Props R)
  | .node n => some n.props
  | .rel r => some r.props
  | _ => none

section Registrations

variable [CommRing R]

/-- The translation and the rotation stored on an edge; a value that is missing
counts as -999, and so does everything that is no edge. -/
def edgeValues (edge : Binding R) : Except Fail ((Fin 3 → R) × (Fin 3 → R)) :=
  match edge with
  | .rel r => do
      let read := fun name : String => readElement env.getFloatElement r.props name (-999)
      let translationX ← read "translation_x"
      let translationY ← read "translation_y"
      let translationZ ← read "translation_z"
      let rotationX ← read "rotation_x"
      let rotationY ← read "rotation_y"
      let rotationZ ← read "rotation_z"
      pure (![translationX, translationY, translationZ], ![rotationX, rotationY, rotationZ])
  | _ => .ok (fun _ => -999, fun _ => -999)

/-- Set the transform of a device, axis by axis. -/
def placeDevice (dev : UserDevice R) (translation rotation : Fin 3 → R) :
    Except Fail (UserDevice R) := do
  let dev ← dev.setTranslation 0 (translation 0)
  let dev ← dev.setTranslation 1 (translation 1)
  let dev ← dev.setTranslation 2 (translation 2)
  let dev ← dev.setRotation env.glm 0 (rotation 0)
  let dev ← dev.setRotation env.glm 1 (rotation 1)
  dev.setRotation env.glm 2 (rotation 2)

/-- One row of the result: the scene, with the device if it is a node with a
key. -/
def registrationRow (obj : Props R) (edge device : Binding R) :
    Except Fail (SceneDocument R) := do
  let newData ← assignSceneProperties env obj {}
  let values ← edgeValues env edge
  match device with
  | .node d =>
      match d.props "key" with
      | some v => do
          let key ← env.getStringElement v
          let newDev ← placeDevice env { key, trans := some Transform.new } values.1 values.2
          pure (newData.addDevice newDev)
      | none => pure newData
  | _ => pure newData

/-- The loop over the rows, up to the first one that is not made of nodes and
relationships. -/
def registrationRows : List (List (Binding R)) → Except Fail (List (SceneDocument R))
  | [] => .ok []
  | row :: rest =>
      match row with
      | obj :: edge :: device :: _ =>
          match elementProps obj, elementProps edge, elementProps device with
          | some props, some _, some _ => do
              let newData ← registrationRow env props edge device
              let scenes ← registrationRows rest
              pure (newData :: scenes)
          | _, _, _ => .ok []
      | _ => .error .undefined

/-- A null list where nothing is found, also on an exception. -/
def readRegistrations : Answer R → Except Fail (Option (SceneList R))
  | .throw _ | .null => .ok none
  | .rows rows => do
      let scenes ← registrationRows env rows
      pure (if scenes.length = 0 then none else some { scenes })

/-- Get scenes that this user device is registered to. -/
def getRegistrations (inpDevice : String) : Db R (Option (SceneList R)) :=
  askAndRead (getRegistrationsQuery inpDevice) (readRegistrations env)

/-! ### Writing registrations -/

def registerDeviceQuery (deviceId sceneId : String) (transform : Transform R)
    (deviceExists : Bool) (udConnStr udHost : String) (udPort : ℤ) : Query R where
  text := "MATCH (scn:Scene {key: {inp_key}})" ++
    (if deviceExists then
      ", (ud:UserDevice {key: {inp_ud_key}})" ++
      " CREATE (scn)-[trans:TRANSFORM \x7btranslation_x: {loc_x}, " ++
      "translation_y: {loc_y}, translation_z: {loc_z}, rotation_x: {rot_x}, " ++
      "rotation_y: {rot_y}, rotation_z: {rot_z}\x7d]->(ud) "
    else
      " CREATE (scn)-[trans:TRANSFORM \x7btranslation_x: {loc_x}, " ++
      "translation_y: {loc_y}, translation_z: {loc_z}, rotation_x: {rot_x}, " ++
      "rotation_y: {rot_y}, rotation_z: {rot_z}\x7d]->(ud:UserDevice " ++
      "\x7bkey: {inp_ud_key}, connection_string: {ud_conn_str}, " ++
      "hostname: {ud_host}, port: {ud_port}\x7d) ") ++
    "RETURN scn, trans, ud"
  params := [("inp_key", .str sceneId), ("inp_ud_key", .str deviceId)] ++
    transformParams env.glm transform ++
    [("ud_conn_str", .str udConnStr), ("ud_host", .str udHost), ("ud_port", .int udPort)]

/-- Create a registration link. Every answer is taken, failures are only
logged. -/
def registerDeviceToScene (deviceId sceneId : String) (transform : Transform R)
    (deviceExists : Bool) (udConnStr udHost : String) (udPort : ℤ) : Db R Unit :=
  askAndRead (registerDeviceQuery env deviceId sceneId transform deviceExists udConnStr udHost
    udPort) fun _ => .ok ()

def removeDeviceQuery (deviceId sceneId : String) : Query R where
  text := "MATCH (scn:Scene {key: {inp_key}})-[trans:TRANSFORM]->" ++
    "(ud:UserDevice {key: {inp_ud_key}}) " ++ "DETACH DELETE ud RETURN scn"
  params := [("inp_key", .str sceneId), ("inp_ud_key", .str deviceId)]

/-- Remove a registration link. Every answer is taken. -/
def removeDeviceFromScene (deviceId sceneId : String) : Db R Unit :=
  askAndRead (removeDeviceQuery deviceId sceneId) fun _ => .ok ()

def updateDeviceQuery (devId sceneId : String) (transform : Transform R) : Query R where
  text := "MATCH (scn:Scene {key: {inp_key}})-[trans:TRANSFORM]->" ++
    "(ud:UserDevice  {key: {inp_ud_key}}) " ++
    "SET trans.translation_x = {loc_x}, trans.translation_y = {loc_y}, " ++
    "trans.translation_z = {loc_z}, trans.rotation_x = {rot_x}, " ++
    "trans.rotation_y = {rot_y}, trans.rotation_z = {rot_z} " ++
    "RETURN scn, trans, ud"
  params := [("inp_key", .str sceneId), ("inp_ud_key", .str devId)] ++
    transformParams env.glm transform

/-- The first value of the first row tells whether a link was found; an
exception is passed on. -/
def readUpdated : Answer R → Except Fail Bool
  | .throw what => .error (queryException what)
  | .null | .rows [] => .ok false
  | .rows ((.node _ :: _) :: _) => .ok true
  | .rows ((_ :: _) :: _) => .ok false
  | .rows ([] :: _) => .error .undefined

/-- Update the device registration. The transform is a pointer that is read
before the query is sent. -/
def updateDeviceRegistration (devId sceneId : String) (transform : Option (Transform R)) :
    Db R Bool :=
  match transform with
  | none => Prog.fail .undefined
  | some t => askAndRead (updateDeviceQuery env devId sceneId t) readUpdated

end Registrations

end DeviceQueries

end CrazyIvan
