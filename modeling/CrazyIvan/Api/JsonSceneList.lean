import CrazyIvan.Library.Json
import CrazyIvan.Model.Scene

/-!
Scene lists as JSON documents.

* `readMember`, `readNumber`: the guarded read of one member, on which the
  decoder is built.
* `readTransform`, `readDevice`, `readScene`, `ofDocument`: the constructor
  `JsonSceneList(const rapidjson::Document&)`. A failed assertion and an index
  past the end of a vector are `Fail.undefined`.
* `toMsgString`: the document that `to_msg_string` writes.
-/

namespace CrazyIvan

open Json Json.Value

variable {R : Type} [CommRing R] (glm : Glm R)

/-! ### Reading -/

section Read

variable {α σ : Type}

/-- `FindMember`, which asserts that it is called on an object. -/
def findMemberOf (d : Value R) (name : String) : Except Fail (Option (Value R)) :=
  orUndefined (d.findMember name)

/-- `if (iter != MemberEnd()) if (iter->value.is()) set(iter->value.get())`. -/
def readMember (is : Value R → Bool) (get : Value R → Option α) (d : Value R) (name : String)
    (set : α → σ → σ) (s : σ) : Except Fail σ := do
  match ← findMemberOf d name with
  | some v =>
      if is v then do
        let x ← orUndefined (get v)
        pure (set x s)
      else pure s
  | none => pure s

/-- The same for a number: a double, or else an integer. -/
def readNumber (d : Value R) (name : String) (set : R → σ → σ) (s : σ) : Except Fail σ := do
  match ← findMemberOf d name with
  | some v =>
      if v.isDouble then do
        let x ← orUndefined v.getDouble
        pure (set x s)
      else if v.isInt then do
        let n ← orUndefined v.getInt
        pure (set n s)
      else pure s
  | none => pure s

/-- The strings of an array member, in order. -/
def readStrings (d : Value R) (name : String) (add : String → σ → σ) (s : σ) : Except Fail σ := do
  match ← findMemberOf d name with
  | some v =>
      if v.isArray then do
        let l ← orUndefined v.getArray
        l.foldlM (fun s x =>
          if x.isString then do
            let str ← orUndefined x.getString
            pure (add str s)
          else pure s) s
      else pure s
  | none => pure s

end Read

/-- `translate`, with an index that is not checked. -/
def Transform.translateAt (t : Transform R) (index : ℕ) (amt : R) : Except Fail (Transform R) :=
  if h : index < 3 then .ok (t.translate ⟨index, h⟩ amt) else .error .undefined

/-- `rotate`: for an index past 2 an error is logged, and the matrix that is
multiplied was never set. -/
def Transform.rotateAt (t : Transform R) (index : ℕ) (amt : R) : Except Fail (Transform R) :=
  if h : index < 3 then .ok (t.rotate glm ⟨index, h⟩ amt) else .error .undefined

/-- The loop over an array of coordinates, from an index on. What is no number
moves the index on. -/
def readAxes (move : Transform R → ℕ → R → Except Fail (Transform R)) :
    ℕ → List (Value R) → Transform R → Except Fail (Transform R)
  | _, [], t => .ok t
  | i, v :: vs, t => do
      let t ← if v.isDouble then do
          let x ← orUndefined v.getDouble
          move t i x
        else if v.isInt then do
          let n ← orUndefined v.getInt
          move t i n
        else pure t
      readAxes move (i + 1) vs t

/-- One member of a transform. The name is compared as a C string. -/
def readTransformMember (t : Transform R) (member : String × Value R) :
    Except Fail (Transform R) :=
  if cstr member.1 = "translation" then
    if member.2.isArray then do
      let l ← orUndefined member.2.getArray
      readAxes Transform.translateAt 0 l t
    else pure t
  else if cstr member.1 = "rotation" then
    if member.2.isArray then do
      let l ← orUndefined member.2.getArray
      readAxes (Transform.rotateAt glm) 0 l t
    else pure t
  else pure t

/-- A new transform, with every member of the value if it is an object. -/
def readTransform (v : Value R) : Except Fail (Transform R) :=
  if v.isObject then do
    let ms ← orUndefined v.getObject
    ms.foldlM (readTransformMember glm) Transform.new
  else pure Transform.new

/-- `if (HasMember("transform"))`. -/
def readTransformOf {σ : Type} (d : Value R) (set : Transform R → σ → σ) (s : σ) :
    Except Fail σ := do
  match ← findMemberOf d "transform" with
  | some v => do
      let t ← readTransform glm v
      pure (set t s)
  | none => pure s

/-- One element of a device list: a device if it has a key. -/
def readDevice (scd : SceneDocument R) (d : Value R) : Except Fail (SceneDocument R) := do
  match ← findMemberOf d "key" with
  | some v =>
      if v.isString then do
        let key ← orUndefined v.getString
        let dev : UserDevice R := { key }
        let dev ← readMember isString getString d "connection_string"
          (fun x dev => { dev with connectionString := x }) dev
        let dev ← readMember isString getString d "hostname"
          (fun x dev => { dev with hostname := x }) dev
        let dev ← readMember isInt getInt d "port" (fun x dev => { dev with port := x }) dev
        let dev ← readTransformOf glm d (fun t dev => { dev with trans := some t }) dev
        pure (scd.addDevice dev)
      else pure scd
  | none => pure scd

/-- One element of the scene list. -/
def readScene (d : Value R) : Except Fail (SceneDocument R) := do
  let scd : SceneDocument R := {}
  let scd ← readMember isString getString d "key" (fun x scd => { scd with key := x }) scd
  let scd ← readMember isString getString d "name" (fun x scd => { scd with name := x }) scd
  let scd ← readMember isString getString d "description"
    (fun x scd => { scd with description := x }) scd
  let scd ← readMember isString getString d "thumbnail"
    (fun x scd => { scd with thumbnail := x }) scd
  let scd ← readMember isBool getBool d "active" (fun x scd => { scd with active := x }) scd
  let scd ← readMember isBool getBool d "public" (fun x scd => { scd with isPublic := x }) scd
  let scd ← readMember isBool getBool d "private" (fun x scd => { scd with isPublic := !x }) scd
  let scd ← readMember isString getString d "region" (fun x scd => { scd with region := x }) scd
  let scd ← readNumber d "latitude" (fun x scd => { scd with latitude := x }) scd
  let scd ← readNumber d "longitude" (fun x scd => { scd with longitude := x }) scd
  let scd ← readNumber d "distance" (fun x scd => { scd with distance := x }) scd
  let scd ← readStrings d "assets" (fun x scd => scd.addAsset x) scd
  let scd ← readStrings d "tags" (fun x scd => scd.addTag x) scd
  let scd ← readTransformOf glm d (fun t scd => { scd with sceneTransform := some t }) scd
  match ← findMemberOf d "devices" with
  | some v =>
      if v.isArray then do
        let l ← orUndefined v.getArray
        l.foldlM (readDevice glm) scd
      else pure scd
  | none => pure scd

/-- The members of a message. The encryption password is set as the key and the
IV as the salt, and the port is read as an integer where it is a string. -/
def readMessage (d : Value R) : Except Fail (SceneList R) := do
  let m : SceneList R := {}
  let m ← readMember isInt getInt d "msg_type" (fun x m => { m with msgType := x }) m
  let m ← readMember isInt getInt d "operation" (fun x m => { m with opType := x }) m
  let m ← readMember isString getString d "transaction_id"
    (fun x m => { m with transactionId := x }) m
  let m ← readMember isString getString d "encryption_password"
    (fun x m => { m with encryptionKey := x }) m
  let m ← readMember isString getString d "encryption_salt"
    (fun x m => { m with encryptionSalt := x }) m
  let m ← readMember isString getString d "encryption_key"
    (fun x m => { m with encryptionKey := x }) m
  let m ← readMember isString getString d "encryption_iv"
    (fun x m => { m with encryptionSalt := x }) m
  let m ← readMember isString getString d "decryption_password"
    (fun x m => { m with decryptionPassword := x }) m
  let m ← readMember isString getString d "decryption_salt"
    (fun x m => { m with decryptionSalt := x }) m
  let m ← readMember isString getString d "decryption_key"
    (fun x m => { m with decryptionKey := x }) m
  let m ← readMember isString getString d "decryption_iv"
    (fun x m => { m with decryptionIv := x }) m
  let m ← readMember isString getString d "event_destination_host"
    (fun x m => { m with eventDestinationHost := x }) m
  let m ← readMember isString getInt d "event_destination_port"
    (fun x m => { m with eventDestinationPort := some x }) m
  let m ← readMember isInt getInt d "err_code" (fun x m => { m with errCode := x }) m
  let m ← readMember isString getString d "err_msg" (fun x m => { m with errMsg := x }) m
  let m ← readMember isInt getInt d "num_records" (fun x m => { m with numRecords := x }) m
  readMember isInt getInt d "start_record" (fun x m => { m with startRecord := x }) m

/-- Create a scene list from a parsed document. -/
def ofDocument (d : Value R) : Except Fail (SceneList R) :=
  if d.isObject then do
    let m ← readMessage d
    match ← findMemberOf d "scenes" with
    | some v =>
        if v.isArray then do
          let l ← orUndefined v.getArray
          l.foldlM (fun m x => do
            let scd ← readScene glm x
            pure (m.addScene scd)) m
        else pure m
    | none => pure m
  else pure {}

/-! ### Writing -/

section Write

variable [LinearOrder R]

/-- `writer.Uint`, of an `int`. -/
def uint (n : ℤ) : Value R := .int (if n < 0 then n + 2 ^ 32 else n)

def writeTransform (t : Transform R) : Value R :=
  .object
    ((if t.hasTranslation then
      [("translation", .array [.double (t.translation 0), .double (t.translation 1),
        .double (t.translation 2)])] else []) ++
    (if t.hasRotation then
      [("rotation", .array [.double (t.rotation glm 0), .double (t.rotation glm 1),
        .double (t.rotation glm 2)])] else []))

/-- The member `transform` of what has one. -/
def writeTransformOf (t : Option (Transform R)) : List (String × Value R) :=
  match t with
  | some t => [("transform", writeTransform glm t)]
  | none => []

def writeDevice (dev : UserDevice R) : Value R :=
  .object
    (optString "key" dev.key ++
    optString "connection_string" dev.connectionString ++
    optString "hostname" dev.hostname ++
    optMember (dev.port < 999999) "port" (uint dev.port) ++
    writeTransformOf glm dev.trans)

def writeScene (scd : SceneDocument R) : Value R :=
  .object
    (optString "key" scd.key ++
    optString "name" scd.name ++
    optString "description" scd.description ++
    optString "user" scd.user ++
    optString "thumbnail" scd.thumbnail ++
    optString "region" scd.region ++
    optMember (scd.latitude > -9999) "latitude" (.double scd.latitude) ++
    [("active", .bool scd.active), ("public", .bool scd.isPublic)] ++
    optMember (scd.longitude > -9999) "longitude" (.double scd.longitude) ++
    optMember (scd.distance > -9999) "distance" (.double scd.distance) ++
    [("assets", .array (scd.assets.map .string)), ("tags", .array (scd.tags.map .string))] ++
    writeTransformOf glm scd.sceneTransform ++
    [("devices", .array (scd.devices.map (writeDevice glm)))])

/-- How many scenes are written. -/
def numReturnScenes (m : SceneList R) : ℤ :=
  if m.numRecords ≠ -1 ∧ m.numRecords < m.numScenes then m.numRecords else m.numScenes

/-- The scenes that are written. -/
def returnScenes (m : SceneList R) : List (SceneDocument R) :=
  m.scenes.take (numReturnScenes m).toNat

/-- The document that `to_msg_string` writes. `unset` is what is read from a port
that was never set. -/
def toMsgString (unset : ℤ) (m : SceneList R) : Value R :=
  let port := m.eventDestinationPort.getD unset
  .object
    ([("msg_type", uint m.msgType), ("err_code", uint m.errCode)] ++
    optString "err_msg" m.errMsg ++
    optString "transaction_id" m.transactionId ++
    optString "encryption_password" m.encryptionPassword ++
    optString "encryption_salt" m.encryptionSalt ++
    optString "encryption_key" m.encryptionKey ++
    optString "encryption_iv" m.encryptionIv ++
    optString "decryption_password" m.decryptionPassword ++
    optString "decryption_salt" m.decryptionSalt ++
    optString "decryption_key" m.decryptionKey ++
    optString "decryption_iv" m.decryptionIv ++
    optString "event_destination_host" m.eventDestinationHost ++
    optMember (port > 0) "event_destination_port" (.int port) ++
    [("num_records", uint (numReturnScenes m)), ("start_record", uint m.startRecord),
      ("scenes", .array ((returnScenes m).map (writeScene glm)))])

end Write

end CrazyIvan
