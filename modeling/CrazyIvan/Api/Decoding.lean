import CrazyIvan.Api.JsonSceneList
import Mathlib.Data.List.ReduceOption

/-!
What the decoder reads from an object: the members of the right type, and nothing
else, except for the port and the transforms.

* `messageFields`, `sceneFields`, `deviceFields`: the values read from the members
  of a message, of a scene and of a device.
* `transformOf`: the transform, which an object has as soon as it has a member of
  that name.
* `ofDocument_object`, `readScene_object`, `deviceOf_object`: the decoder in these
  terms.
-/

namespace CrazyIvan

open Json Json.Value

variable {R : Type} [CommRing R] (glm : Glm R)

/-! ### Single members -/

section Members

variable {α σ : Type} (ms : List (String × Value R)) (name : String)

omit [CommRing R] in
lemma findMemberOf_object : findMemberOf (.object ms) name = .ok (ms.lookup name) := rfl

omit [CommRing R] in
/-- A guarded read is that of a typed member. -/
lemma readMember_object (get : Value R → Option α) (set : α → σ → σ) (s : σ) :
    readMember (fun v => (get v).isSome) get (.object ms) name set s =
      .ok ((member? get ms name).elim s fun x => set x s) := by
  rw [readMember, findMemberOf_object, member?, bind_of_ok]
  cases ms.lookup name with
  | none => rfl
  | some v =>
      cases hv : get v with
      | none => simp [hv]; rfl
      | some x => simp [hv, orUndefined]

lemma readNumber_object (set : R → σ → σ) (s : σ) :
    readNumber (.object ms) name set s =
      .ok ((member? getNumber ms name).elim s fun x => set x s) := by
  rw [readNumber, findMemberOf_object, member?, bind_of_ok]
  cases ms.lookup name with
  | none => rfl
  | some v =>
      cases hd : v.getDouble with
      | some x => simp [isDouble, getNumber, hd, orUndefined]
      | none =>
          cases hi : v.getInt with
          | some n => simp [isDouble, isInt, getNumber, hd, hi, orUndefined]
          | none => simp [isDouble, isInt, getNumber, hd, hi]; rfl

/-- The strings of an array member. -/
def stringsOf : List String := ((member? getArray ms name).getD []).filterMap getString

omit [CommRing R] in
lemma readStrings_object (add : String → σ → σ) (s : σ) :
    readStrings (.object ms) name add s =
      .ok ((stringsOf ms name).foldl (fun s x => add x s) s) := by
  have hfold : ∀ (l : List (Value R)) (s : σ), l.foldlM (fun s x =>
      if x.isString then do
        let str ← orUndefined x.getString
        pure (add str s)
      else pure s) s =
        (.ok ((l.filterMap getString).foldl (fun s x => add x s) s) : Except Fail σ) := by
    intro l
    induction l with
    | nil => exact fun _ => rfl
    | cons x l ih =>
        intro s
        rw [List.foldlM_cons]
        cases hx : x.getString with
        | none =>
            rw [List.filterMap_cons_none hx, ← ih s]
            simp [isString, hx]
        | some str =>
            rw [List.filterMap_cons_some hx, List.foldl_cons, ← ih (add str s)]
            simp only [isString, hx, Option.isSome_some, if_true, orUndefined]
            rfl
  rw [readStrings, findMemberOf_object, stringsOf, member?, bind_of_ok]
  cases ms.lookup name with
  | none => rfl
  | some v =>
      cases hv : v.getArray with
      | none => simp [isArray, hv]; rfl
      | some l =>
          simp only [isArray, hv, Option.isSome_some, if_true, orUndefined, Option.bind_some,
            Option.getD_some]
          exact hfold l s

end Members

/-! ### Devices, scenes and messages -/

/-- The transform of an object, new where the member is no object. -/
def transformOf (ms : List (String × Value R)) : Except Fail (Option (Transform R)) :=
  match ms.lookup "transform" with
  | some v => (readTransform glm v).map some
  | none => .ok none

/-- The values of a device. -/
def deviceFields (ms : List (String × Value R)) (key : String) : UserDevice R where
  key := key
  connectionString := (member? getString ms "connection_string").getD ""
  hostname := (member? getString ms "hostname").getD ""
  port := (member? getInt ms "port").getD 999999

/-- The device of an element, if it has a key. -/
def deviceOf (d : Value R) : Except Fail (Option (UserDevice R)) :=
  match d with
  | .object ms =>
      match member? getString ms "key" with
      | some key => (transformOf glm ms).map fun t => some { deviceFields ms key with trans := t }
      | none => .ok none
  | _ => .error .undefined

/-- The values of a scene. -/
def sceneFields (ms : List (String × Value R)) : SceneDocument R where
  key := (member? getString ms "key").getD ""
  name := (member? getString ms "name").getD ""
  description := (member? getString ms "description").getD ""
  thumbnail := (member? getString ms "thumbnail").getD ""
  region := (member? getString ms "region").getD ""
  active := (member? getBool ms "active").getD true
  isPublic := !((member? getBool ms "private").getD !((member? getBool ms "public").getD true))
  latitude := (member? getNumber ms "latitude").getD (-9999)
  longitude := (member? getNumber ms "longitude").getD (-9999)
  distance := (member? getNumber ms "distance").getD 0
  assets := stringsOf ms "assets"
  tags := stringsOf ms "tags"

/-- The elements of an array member. -/
def elementsOf (ms : List (String × Value R)) (name : String) : List (Value R) :=
  (member? getArray ms name).getD []

/-- The scene of an element. -/
def sceneOf (d : Value R) : Except Fail (SceneDocument R) :=
  match d with
  | .object ms => do
      let sceneTransform ← transformOf glm ms
      let devices ← (elementsOf ms "devices").mapM (deviceOf glm)
      pure { sceneFields ms with sceneTransform, devices := devices.reduceOption }
  | _ => .error .undefined

/-- The values of a message. -/
def messageFields (ms : List (String × Value R)) : SceneList R where
  msgType := (member? getInt ms "msg_type").getD (-1)
  opType := (member? getInt ms "operation").getD opAppend
  transactionId := (member? getString ms "transaction_id").getD ""
  encryptionKey := (member? getString ms "encryption_key").getD
    ((member? getString ms "encryption_password").getD "")
  encryptionSalt := (member? getString ms "encryption_iv").getD
    ((member? getString ms "encryption_salt").getD "")
  decryptionPassword := (member? getString ms "decryption_password").getD ""
  decryptionSalt := (member? getString ms "decryption_salt").getD ""
  decryptionKey := (member? getString ms "decryption_key").getD ""
  decryptionIv := (member? getString ms "decryption_iv").getD ""
  eventDestinationHost := (member? getString ms "event_destination_host").getD ""
  errCode := (member? getInt ms "err_code").getD noError
  errMsg := (member? getString ms "err_msg").getD ""
  numRecords := (member? getInt ms "num_records").getD 10
  startRecord := (member? getInt ms "start_record").getD 0

/-! ### The decoder on an object -/

section Fields

variable {α σ : Type} (ms : List (String × Value R)) (name : String) (field : σ → α)
    {set : α → σ → σ}

omit [CommRing R] in
/-- A guarded read sets its field to the member, or leaves it. -/
lemma readMember_field (is : Value R → Bool) (get : Value R → Option α)
    (his : is = fun v => (get v).isSome) (hset : ∀ s, set (field s) s = s) (s : σ) :
    readMember is get (.object ms) name set s =
      .ok (set ((member? get ms name).getD (field s)) s) := by
  rw [his, readMember_object]
  cases member? get ms name with
  | none => rw [Option.elim_none, Option.getD_none, hset]
  | some x => rfl

lemma readNumber_field (field : σ → R) {set : R → σ → σ} (hset : ∀ s, set (field s) s = s)
    (s : σ) : readNumber (.object ms) name set s =
      .ok (set ((member? getNumber ms name).getD (field s)) s) := by
  rw [readNumber_object]
  cases member? getNumber ms name with
  | none => rw [Option.elim_none, Option.getD_none, hset]
  | some x => rfl

end Fields

variable {glm}

lemma readTransformOf_object {σ : Type} (ms : List (String × Value R)) (set : Transform R → σ → σ)
    (s : σ) : readTransformOf glm (.object ms) set s =
      (transformOf glm ms).map fun t => t.elim s fun t => set t s := by
  rw [readTransformOf, findMemberOf_object, transformOf, bind_of_ok]
  cases ms.lookup "transform" with
  | none => rfl
  | some v => cases h : readTransform glm v <;> simp [h, Except.map]

lemma readDevice_eq (scd : SceneDocument R) (d : Value R) :
    readDevice glm scd d = (deviceOf glm d).map fun dev => dev.elim scd scd.addDevice := by
  cases d with
  | object ms =>
      simp only [readDevice, findMemberOf_object, deviceOf, bind_of_ok]
      rw [member?]
      cases ms.lookup "key" with
      | none => rfl
      | some v =>
          cases hv : v.getString with
          | none => simp [isString, hv, Except.map]; rfl
          | some key =>
              have hkey : v.isString = true := by rw [isString, hv]; rfl
              simp (disch := intros; rfl) only [hkey, hv, if_true, orUndefined, bind_of_ok,
                Option.bind_some,
                readMember_field ms "connection_string" UserDevice.connectionString isString
                  getString rfl,
                readMember_field ms "hostname" UserDevice.hostname isString getString rfl,
                readMember_field ms "port" UserDevice.port isInt getInt rfl, readTransformOf_object]
              cases transformOf glm ms with
              | error e => rfl
              | ok t => cases t <;> rfl
  | _ => rfl

variable (glm) in
/-- The loop over a device list. -/
lemma foldlM_readDevice (l : List (Value R)) (scd : SceneDocument R) :
    l.foldlM (readDevice glm) scd = (l.mapM (deviceOf glm)).map fun devs =>
      { scd with devices := scd.devices ++ devs.reduceOption } := by
  induction l generalizing scd with
  | nil => simp [Except.map, pure, Except.pure]
  | cons d l ih =>
      rw [List.foldlM_cons, List.mapM_cons, readDevice_eq]
      cases deviceOf glm d with
      | error e => rfl
      | ok dev =>
          show l.foldlM (readDevice glm) (dev.elim scd scd.addDevice) = _
          rw [ih, bind_of_ok]
          cases l.mapM (deviceOf glm) with
          | error e => rfl
          | ok devs =>
              cases dev <;>
                simp [Except.map, SceneDocument.addDevice, bind_of_ok, pure, Except.pure]

/-- The devices of a scene are read after those it has. -/
lemma readDevices_object (ms : List (String × Value R)) (scd : SceneDocument R) :
    (match ms.lookup "devices" with
      | some v =>
          if v.isArray then do
            let l ← orUndefined v.getArray
            l.foldlM (readDevice glm) scd
          else pure scd
      | none => pure scd) =
      ((elementsOf ms "devices").mapM (deviceOf glm)).map fun devs =>
        { scd with devices := scd.devices ++ devs.reduceOption } := by
  have hnone : pure scd = (([] : List (Value R)).mapM (deviceOf glm)).map fun devs =>
      { scd with devices := scd.devices ++ devs.reduceOption } :=
    foldlM_readDevice glm [] scd
  rw [elementsOf, member?]
  cases ms.lookup "devices" with
  | none => exact hnone
  | some v =>
      cases hv : v.getArray with
      | none => simpa [isArray, hv] using hnone
      | some l =>
          have hl := foldlM_readDevice glm l scd
          simpa [isArray, hv, orUndefined, bind_of_ok] using hl

/-- An element of the scene list is read as its scene. -/
lemma readScene_eq (d : Value R) : readScene glm d = sceneOf glm d := by
  cases d with
  | object ms =>
      have hprivate : ∀ s : SceneDocument R, readMember isBool getBool (.object ms) "private"
          (fun x scd => { scd with isPublic := !x }) s =
            .ok { s with isPublic := !((member? getBool ms "private").getD !s.isPublic) } :=
        fun s => readMember_field ms "private" (fun s : SceneDocument R => !s.isPublic) isBool
          getBool rfl (fun s => by simp) s
      simp (disch := intros; rfl) only [readScene, sceneOf, findMemberOf_object, bind_of_ok,
        hprivate, readStrings_object, SceneDocument.foldl_addAsset, SceneDocument.foldl_addTag,
        readTransformOf_object,
        readMember_field ms "key" SceneDocument.key isString getString rfl,
        readMember_field ms "name" SceneDocument.name isString getString rfl,
        readMember_field ms "description" SceneDocument.description isString getString rfl,
        readMember_field ms "thumbnail" SceneDocument.thumbnail isString getString rfl,
        readMember_field ms "active" SceneDocument.active isBool getBool rfl,
        readMember_field ms "public" SceneDocument.isPublic isBool getBool rfl,
        readMember_field ms "region" SceneDocument.region isString getString rfl,
        readNumber_field ms "latitude" SceneDocument.latitude,
        readNumber_field ms "longitude" SceneDocument.longitude,
        readNumber_field ms "distance" SceneDocument.distance]
      cases transformOf glm ms with
      | error e => rfl
      | ok t =>
          refine (readDevices_object ms _).trans ?_
          show _ = (elementsOf ms "devices").mapM (deviceOf glm) >>= _
          cases (elementsOf ms "devices").mapM (deviceOf glm) with
          | error e => rfl
          | ok devs => cases t <;> simp [Except.map, sceneFields]
  | _ => rfl

omit [CommRing R] in
/-- The port is read as an integer where it is a string, which no value is. -/
lemma readPort_object {σ : Type} (ms : List (String × Value R)) (name : String) (set : ℤ → σ → σ)
    (s : σ) : readMember isString getInt (.object ms) name set s =
      if (member? getString ms name).isSome then .error .undefined else .ok s := by
  rw [readMember, findMemberOf_object, member?, bind_of_ok]
  cases ms.lookup name with
  | none => rfl
  | some v => cases v <;> rfl

variable (glm) in
/-- The scenes are read after those of the message. -/
lemma foldlM_readScene (l : List (Value R)) (m : SceneList R) :
    (l.foldlM (fun m x => do
      let scd ← readScene glm x
      pure (m.addScene scd)) m : Except Fail (SceneList R)) =
      (l.mapM (sceneOf glm)).map fun scenes => { m with scenes := m.scenes ++ scenes } := by
  induction l generalizing m with
  | nil => simp [Except.map, pure, Except.pure]
  | cons x l ih =>
      rw [List.foldlM_cons, List.mapM_cons, readScene_eq]
      cases sceneOf glm x with
      | error e => rfl
      | ok scd =>
          show l.foldlM _ (m.addScene scd) = _
          rw [ih, bind_of_ok]
          cases l.mapM (sceneOf glm) with
          | error e => rfl
          | ok scenes =>
              simp [Except.map, SceneList.addScene, bind_of_ok, pure, Except.pure]

lemma readScenes_object (ms : List (String × Value R)) (m : SceneList R) :
    (match ms.lookup "scenes" with
      | some v =>
          if v.isArray then do
            let l ← orUndefined v.getArray
            l.foldlM (fun m x => do
              let scd ← readScene glm x
              pure (m.addScene scd)) m
          else pure m
      | none => pure m) =
      ((elementsOf ms "scenes").mapM (sceneOf glm)).map fun scenes =>
        { m with scenes := m.scenes ++ scenes } := by
  have hnone : pure m = (([] : List (Value R)).mapM (sceneOf glm)).map fun scenes =>
      { m with scenes := m.scenes ++ scenes } :=
    foldlM_readScene glm [] m
  rw [elementsOf, member?]
  cases ms.lookup "scenes" with
  | none => exact hnone
  | some v =>
      cases hv : v.getArray with
      | none => simpa [isArray, hv] using hnone
      | some l =>
          have hl := foldlM_readScene glm l m
          simpa [isArray, hv, orUndefined, bind_of_ok] using hl

lemma readMessage_object (ms : List (String × Value R)) :
    readMessage (.object ms) =
      if (member? getString ms "event_destination_port").isSome then .error .undefined
      else .ok (messageFields ms) := by
  simp (disch := intros; rfl) only [readMessage, bind_of_ok, readPort_object,
    readMember_field ms "msg_type" SceneList.msgType isInt getInt rfl,
    readMember_field ms "operation" SceneList.opType isInt getInt rfl,
    readMember_field ms "transaction_id" SceneList.transactionId isString getString rfl,
    readMember_field ms "encryption_password" SceneList.encryptionKey isString getString rfl,
    readMember_field ms "encryption_salt" SceneList.encryptionSalt isString getString rfl,
    readMember_field ms "encryption_key" SceneList.encryptionKey isString getString rfl,
    readMember_field ms "encryption_iv" SceneList.encryptionSalt isString getString rfl,
    readMember_field ms "decryption_password" SceneList.decryptionPassword isString getString rfl,
    readMember_field ms "decryption_salt" SceneList.decryptionSalt isString getString rfl,
    readMember_field ms "decryption_key" SceneList.decryptionKey isString getString rfl,
    readMember_field ms "decryption_iv" SceneList.decryptionIv isString getString rfl,
    readMember_field ms "event_destination_host" SceneList.eventDestinationHost isString getString
      rfl,
    readMember_field ms "err_code" SceneList.errCode isInt getInt rfl,
    readMember_field ms "err_msg" SceneList.errMsg isString getString rfl,
    readMember_field ms "num_records" SceneList.numRecords isInt getInt rfl,
    readMember_field ms "start_record" SceneList.startRecord isInt getInt rfl]
  split
  · rfl
  · rfl

/-- The decoder on an object. -/
lemma ofDocument_object (ms : List (String × Value R)) :
    ofDocument glm (.object ms) =
      if (member? getString ms "event_destination_port").isSome then .error .undefined
      else ((elementsOf ms "scenes").mapM (sceneOf glm)).map fun scenes =>
        { messageFields ms with scenes } := by
  rw [ofDocument, readMessage_object, if_pos (show (object ms).isObject = true from rfl)]
  split
  · rfl
  · exact (readScenes_object ms _).trans rfl

/-- A document that is no object is an empty message. -/
lemma ofDocument_of_not_object {d : Value R} (h : ∀ ms, d ≠ .object ms) :
    ofDocument glm d = .ok {} := by
  cases d with
  | object ms => exact absurd rfl (h ms)
  | _ => rfl

end CrazyIvan
