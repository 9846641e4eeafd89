import CrazyIvan.Api.Decoding
import CrazyIvan.Model.Copies

/-!
A scene list that is written and read again.

* `ofDocument_write`: any written message is read without an error, as its
  `SceneList.copy`.
* `ofDocument_toMsgString`: the scenes that are read are those that were written.
* `ofDocument_toMsgString_not_restored`: which of the other members are restored;
  the port never is.
-/

namespace CrazyIvan

open Json Json.Value

variable {R : Type} [CommRing R] (glm : Glm R)

/-! ### What is read from what was written -/

section Write

variable [LinearOrder R]

omit [LinearOrder R] in
lemma readTransform_write (t : Transform R) :
    readTransform glm (writeTransform glm t) = .ok (t.copy glm) := by
  have htranslation : cstr "translation" = "translation" := by decide
  have hrotation : cstr "rotation" = "rotation" := by decide
  cases h : t.hasTranslation <;> cases h' : t.hasRotation <;>
    simp [readTransform, writeTransform, Transform.copy, h, h', isObject, orUndefined,
      readTransformMember, readAxes, isArray, isDouble, Transform.translateAt, Transform.rotateAt,
      bind_of_ok, htranslation, hrotation, pure, Except.pure]

omit [LinearOrder R] in
lemma lookup_writeTransformOf (t : Option (Transform R)) (name : String) :
    (writeTransformOf glm t).lookup name =
      if name = "transform" then t.map (writeTransform glm) else none := by
  cases t with
  | none => simp [writeTransformOf]
  | some t => by_cases h : name = "transform" <;> simp [writeTransformOf, h]

omit [CommRing R] [LinearOrder R] in
/-- A string that is written unless it is empty is read as it is. -/
lemma getD_bind_getString (s : String) :
    ((if s = "" then none else some (.string s : Value R)).bind getString).getD "" = cstr s := by
  by_cases h : s = ""
  · rw [if_pos h, h]
    rfl
  · rw [if_neg h]
    rfl

omit [LinearOrder R] in
/-- A number that is written under a condition is read under that condition. -/
lemma getD_bind_getNumber (c : Prop) [Decidable c] (x unset : R) :
    ((if c then some (.double x : Value R) else none).bind getNumber).getD unset =
      if c then x else unset := by
  split <;> rfl

/-- A loop over written elements, each of which can be read. -/
lemma mapM_map_ok {α β γ : Type} {write : α → β} {read : β → Except Fail γ} {copy : α → γ}
    (h : ∀ x, read (write x) = .ok (copy x)) (l : List α) :
    (l.map write).mapM read = .ok (l.map copy) := by
  induction l with
  | nil => rfl
  | cons x l ih => rw [List.map_cons, List.mapM_cons, h, bind_of_ok, ih]; rfl

/-- The port that is read from a written one. -/
def copyPort (port : ℤ) : ℤ :=
  ((if port < 999999 then some (uint port : Value R) else none).bind getInt).getD 999999

/-- The device that is read from a written one. -/
def UserDevice.copy (dev : UserDevice R) : UserDevice R where
  key := cstr dev.key
  connectionString := cstr dev.connectionString
  hostname := cstr dev.hostname
  port := copyPort (R := R) dev.port
  trans := dev.trans.map (Transform.copy glm)

omit [LinearOrder R] in
lemma transformOf_eq {ms : List (String × Value R)} {t : Option (Transform R)}
    (h : ms.lookup "transform" = t.map (writeTransform glm)) :
    transformOf glm ms = .ok (t.map (Transform.copy glm)) := by
  rw [transformOf, h]
  cases t with
  | none => rfl
  | some t =>
      show (readTransform glm (writeTransform glm t)).map some = _
      rw [readTransform_write]
      rfl

omit [LinearOrder R] in
lemma deviceOf_write (dev : UserDevice R) :
    deviceOf glm (writeDevice glm dev) =
      .ok (if dev.key = "" then none else some (dev.copy glm)) := by
  rw [writeDevice, deviceOf, transformOf_eq glm (t := dev.trans)
    (by simp [List.lookup_append, lookup_optString, lookup_optMember, lookup_writeTransformOf])]
  by_cases hkey : dev.key = "" <;>
    simp [deviceFields, member?, List.lookup_append, lookup_optString, lookup_optMember,
      lookup_writeTransformOf, UserDevice.copy, copyPort, hkey, getD_bind_getString, Except.map]

/-- The scene that is read from a written one. -/
def SceneDocument.copy (s : SceneDocument R) : SceneDocument R where
  key := cstr s.key
  name := cstr s.name
  description := cstr s.description
  thumbnail := cstr s.thumbnail
  region := cstr s.region
  active := s.active
  isPublic := s.isPublic
  latitude := if -9999 < s.latitude then s.latitude else -9999
  longitude := if -9999 < s.longitude then s.longitude else -9999
  distance := if -9999 < s.distance then s.distance else 0
  assets := s.assets.map cstr
  tags := s.tags.map cstr
  devices := (s.devices.filter fun dev => dev.key ≠ "").map (UserDevice.copy glm)
  sceneTransform := s.sceneTransform.map (Transform.copy glm)

omit [CommRing R] [LinearOrder R] in
lemma stringsOf_eq {ms : List (String × Value R)} {name : String} {l : List String}
    (h : ms.lookup name = some (.array (l.map .string))) : stringsOf ms name = l.map cstr := by
  rw [stringsOf, member?, h]
  simp [List.filterMap_map, Function.comp_def]

lemma sceneOf_write (s : SceneDocument R) :
    sceneOf glm (writeScene glm s) = .ok (s.copy glm) := by
  rw [writeScene, sceneOf, transformOf_eq glm (t := s.sceneTransform)
    (by simp [List.lookup_append, lookup_cons, lookup_optString, lookup_optMember,
      lookup_writeTransformOf])]
  simp only [bind_of_ok, sceneFields]
  rw [stringsOf_eq (l := s.assets)
      (by simp [List.lookup_append, lookup_cons, lookup_optString, lookup_optMember]),
    stringsOf_eq (l := s.tags)
      (by simp [List.lookup_append, lookup_cons, lookup_optString, lookup_optMember])]
  have hdevices : (s.devices.map fun dev => if dev.key = "" then none else some (dev.copy glm)
      ).reduceOption = (s.devices.filter fun dev => dev.key ≠ "").map (UserDevice.copy glm) := by
    induction s.devices with
    | nil => rfl
    | cons dev l ih =>
        by_cases h : dev.key = "" <;>
          simp [h, List.reduceOption_cons_of_none, List.reduceOption_cons_of_some, ih]
  simp [elementsOf, member?, List.lookup_append, lookup_cons, lookup_optString, lookup_optMember,
    lookup_writeTransformOf, mapM_map_ok (deviceOf_write glm), getD_bind_getString,
    getD_bind_getNumber, hdevices, SceneDocument.copy]

/-- The message that is read from a written one. The port is lost, and so are the
encryption password and IV. -/
def SceneList.copy (m : SceneList R) : SceneList R where
  msgType := ((uint m.msgType : Value R).getInt).getD (-1)
  errCode := ((uint m.errCode : Value R).getInt).getD noError
  errMsg := cstr m.errMsg
  transactionId := cstr m.transactionId
  startRecord := ((uint m.startRecord : Value R).getInt).getD 0
  numRecords := ((uint (numReturnScenes m) : Value R).getInt).getD 10
  scenes := (returnScenes m).map (SceneDocument.copy glm)
  eventDestinationHost := cstr m.eventDestinationHost
  decryptionPassword := cstr m.decryptionPassword
  decryptionSalt := cstr m.decryptionSalt
  decryptionKey := cstr m.decryptionKey
  decryptionIv := cstr m.decryptionIv
  encryptionKey := if m.encryptionKey = "" then cstr m.encryptionPassword else cstr m.encryptionKey
  encryptionSalt := if m.encryptionIv = "" then cstr m.encryptionSalt else cstr m.encryptionIv

/-- A written message is read without an error. -/
theorem ofDocument_write (unset : ℤ) (m : SceneList R) :
    ofDocument glm (toMsgString glm unset m) = .ok (m.copy glm) := by
  have hor : ∀ s s' : String,
      ((if s = "" then none else some (.string s : Value R)).bind getString).getD (cstr s') =
        if s = "" then cstr s' else cstr s := by
    intro s s'
    by_cases h : s = ""
    · rw [if_pos h, if_pos h]
      rfl
    · rw [if_neg h, if_neg h]
      rfl
  have hport : ∀ n : ℤ, (int n : Value R).getString = none := fun n => rfl
  rw [toMsgString, ofDocument_object, if_neg (by
    simp [member?, List.lookup_append, lookup_cons, lookup_optString, lookup_optMember, hport])]
  simp [elementsOf, member?, List.lookup_append, lookup_cons, lookup_optString, lookup_optMember,
    mapM_map_ok (sceneOf_write glm), getD_bind_getString, hor, messageFields, Except.map,
    SceneList.copy]

end Write

/-! ### Scenes -/

section Scenes

/-- A device with a key and with a port that is valid or unset. -/
structure UserDevice.Writable (dev : UserDevice R) : Prop where
  keyed : dev.key ≠ ""
  noNul : ∀ x ∈ [dev.key, dev.connectionString, dev.hostname], NoNul x
  port : 0 ≤ dev.port ∧ dev.port ≤ 999999
  trans : ∀ t ∈ dev.trans, t.Built glm

/-- A scene with coordinates that are valid or unset. -/
structure SceneDocument.Writable [LinearOrder R] (s : SceneDocument R) : Prop where
  noNul : ∀ x ∈ [s.key, s.name, s.description, s.thumbnail, s.region] ++ s.assets ++ s.tags,
    NoNul x
  latitude : -9999 ≤ s.latitude
  longitude : -9999 ≤ s.longitude
  distance : -9999 < s.distance
  devices : ∀ dev ∈ s.devices, dev.Writable glm
  sceneTransform : ∀ t ∈ s.sceneTransform, t.Built glm

variable {glm}

lemma map_cstr_of_noNul {l : List String} (h : ∀ x ∈ l, NoNul x) : l.map cstr = l :=
  (List.map_congr_left fun x hx => cstr_of_noNul (h x hx)).trans (List.map_id l)

omit [CommRing R] in
lemma copyPort_eq {port : ℤ} (h : 0 ≤ port) (h' : port ≤ 999999) :
    copyPort (R := R) port = port := by
  rw [copyPort, uint, if_neg h.not_gt]
  split
  · rw [Option.bind_some, getInt_int (by omega) (by omega), Option.getD_some]
  · exact le_antisymm (by simpa using not_lt.mp ‹_›) h'

lemma UserDevice.Writable.same_copy (hglm : glm.Exact) {dev : UserDevice R}
    (h : dev.Writable glm) : dev.Same (dev.copy glm) where
  key := cstr_of_noNul (h.noNul _ (by simp))
  connectionString := cstr_of_noNul (h.noNul _ (by simp))
  hostname := cstr_of_noNul (h.noNul _ (by simp))
  port := copyPort_eq h.port.1 h.port.2
  trans := sameTransform_copy hglm h.trans

variable [LinearOrder R]

lemma SceneDocument.Writable.same_copy (hglm : glm.Exact) {s : SceneDocument R}
    (h : s.Writable glm) : s.Same (s.copy glm) where
  key := cstr_of_noNul (h.noNul _ (by simp))
  name := cstr_of_noNul (h.noNul _ (by simp))
  description := cstr_of_noNul (h.noNul _ (by simp))
  thumbnail := cstr_of_noNul (h.noNul _ (by simp))
  region := cstr_of_noNul (h.noNul _ (by simp))
  latitude := (ite_eq_left_iff.mpr fun hlt => le_antisymm h.latitude (not_lt.mp hlt))
  longitude := (ite_eq_left_iff.mpr fun hlt => le_antisymm h.longitude (not_lt.mp hlt))
  distance := if_pos h.distance
  active := rfl
  isPublic := rfl
  assets := map_cstr_of_noNul fun x hx => h.noNul x (by simp [hx])
  tags := map_cstr_of_noNul fun x hx => h.noNul x (by simp [hx])
  devices := by
    have hkeyed : (s.devices.filter fun dev => dev.key ≠ "") = s.devices :=
      List.filter_eq_self.mpr fun dev hdev => by simpa using (h.devices dev hdev).keyed
    rw [copy, hkeyed, List.forall₂_map_right_iff, List.forall₂_same]
    exact fun dev hdev => (h.devices dev hdev).same_copy hglm
  sceneTransform := sameTransform_copy hglm h.sceneTransform

omit [LinearOrder R] in
/-- All the scenes are written where the number of records does not cut them off. -/
lemma returnScenes_eq {m : SceneList R} (h : m.numRecords = -1 ∨ m.numScenes ≤ m.numRecords) :
    numReturnScenes m = m.numScenes ∧ returnScenes m = m.scenes := by
  have hnum : numReturnScenes m = m.numScenes := if_neg (by omega)
  refine ⟨hnum, ?_⟩
  rw [returnScenes, hnum]
  exact List.take_length

/-- The scenes of a message that is written and read again are the same, in the
same order, and the number that is written is theirs. -/
theorem ofDocument_toMsgString (hglm : glm.Exact) (unset : ℤ) {m : SceneList R}
    (hrecords : m.numRecords = -1 ∨ m.numScenes ≤ m.numRecords)
    (hscenes : ∀ s ∈ m.scenes, s.Writable glm) :
    (∃ m', ofDocument glm (toMsgString glm unset m) = .ok m' ∧
      List.Forall₂ SceneDocument.Same m.scenes m'.scenes) ∧
    ∃ (ms : List (String × Value R)) (scenes : List (Value R)),
      toMsgString glm unset m = .object ms ∧ ms.lookup "scenes" = some (.array scenes) ∧
        ms.lookup "num_records" = some (.int scenes.length) := by
  obtain ⟨hnum, hreturn⟩ := returnScenes_eq hrecords
  constructor
  · refine ⟨m.copy glm, ofDocument_write glm unset m, ?_⟩
    rw [SceneList.copy, hreturn, List.forall₂_map_right_iff, List.forall₂_same]
    exact fun s hs => (hscenes s hs).same_copy hglm
  · refine ⟨_, (returnScenes m).map (writeScene glm), rfl, ?_, ?_⟩
    · simp [List.lookup_append, lookup_cons, lookup_optString, lookup_optMember]
    · simp [List.lookup_append, lookup_cons, lookup_optString, lookup_optMember, hnum, hreturn,
        uint, SceneList.numScenes]

/-- A scene with coordinates and transforms, and a device with one. -/
noncomputable def exampleScene : SceneDocument ℝ where
  key := "scene"
  latitude := 10
  longitude := -20
  assets := ["a", "a"]
  devices := [{ key := "device", port := 8080, trans := some (Transform.new.translate 0 1) }]
  sceneTransform := some (Transform.new.rotate Glm.real 2 1)

lemma exampleScene_writable : exampleScene.Writable Glm.real where
  noNul := by simp [exampleScene, NoNul]
  latitude := by norm_num [exampleScene]
  longitude := by norm_num [exampleScene]
  distance := by norm_num [exampleScene]
  devices := by
    rintro dev hdev
    obtain rfl := List.mem_singleton.mp hdev
    exact ⟨by decide, by simp [NoNul], by decide, by
      rintro t ⟨rfl⟩
      exact .translate 0 1 .new⟩
  sceneTransform := by
    rintro t ⟨rfl⟩
    exact .rotate 2 1 .new

theorem ofDocument_toMsgString_example :
    (∃ m', ofDocument Glm.real (toMsgString Glm.real 0
        { numRecords := -1, scenes := [exampleScene, exampleScene] }) = .ok m' ∧
      List.Forall₂ SceneDocument.Same [exampleScene, exampleScene] m'.scenes) ∧
    ∃ (ms : List (String × Value ℝ)) (scenes : List (Value ℝ)),
      toMsgString Glm.real 0 { numRecords := -1, scenes := [exampleScene, exampleScene] } =
          .object ms ∧
        ms.lookup "scenes" = some (.array scenes) ∧
          ms.lookup "num_records" = some (.int scenes.length) :=
  ofDocument_toMsgString Glm.real_exact 0
    (m := { numRecords := -1, scenes := [exampleScene, exampleScene] }) (.inl rfl)
    (by simp [exampleScene_writable])

end Scenes

/-! ### Secrets -/

section Secrets

variable [LinearOrder R]

/-- The strings of a message that are restored. -/
def SceneList.texts (m : SceneList R) : List String :=
  [m.errMsg, m.transactionId, m.eventDestinationHost,
    m.encryptionPassword, m.encryptionSalt, m.encryptionKey, m.encryptionIv,
    m.decryptionPassword, m.decryptionSalt, m.decryptionKey, m.decryptionIv]

/-- The members of a message but for its port, and the users of the scenes that
are written. -/
structure SceneList.RestoredButPort (m m' : SceneList R) : Prop where
  msgType : m'.msgType = m.msgType
  errCode : m'.errCode = m.errCode
  errMsg : m'.errMsg = m.errMsg
  transactionId : m'.transactionId = m.transactionId
  eventDestinationHost : m'.eventDestinationHost = m.eventDestinationHost
  encryptionPassword : m'.encryptionPassword = m.encryptionPassword
  encryptionSalt : m'.encryptionSalt = m.encryptionSalt
  encryptionKey : m'.encryptionKey = m.encryptionKey
  encryptionIv : m'.encryptionIv = m.encryptionIv
  decryptionPassword : m'.decryptionPassword = m.decryptionPassword
  decryptionSalt : m'.decryptionSalt = m.decryptionSalt
  decryptionKey : m'.decryptionKey = m.decryptionKey
  decryptionIv : m'.decryptionIv = m.decryptionIv
  users : (m'.scenes.map SceneDocument.user) = (returnScenes m).map SceneDocument.user

/-- All that is to be restored. -/
structure SceneList.Restored (m m' : SceneList R) : Prop extends m.RestoredButPort m' where
  eventDestinationPort : m'.eventDestinationPort = m.eventDestinationPort

omit [CommRing R] [LinearOrder R] in
/-- A 32-bit integer that is not negative is read as it was written. -/
lemma getInt_uint {n : ℤ} (h : 0 ≤ n) (h' : n < 2 ^ 31) (unset : ℤ) :
    ((uint n : Value R).getInt).getD unset = n := by
  rw [uint, if_neg h.not_gt, getInt_int (by omega) h', Option.getD_some]

/-- What is restored, but for the port. -/
lemma restoredButPort_copy_iff {m : SceneList R} (htype : 0 ≤ m.msgType)
    (htype' : m.msgType < 2 ^ 31) (herr : 0 ≤ m.errCode) (herr' : m.errCode < 2 ^ 31)
    (hnoNul : ∀ s ∈ m.texts, NoNul s) :
    m.RestoredButPort (m.copy glm) ↔ m.encryptionPassword = "" ∧ m.encryptionIv = "" ∧
      ∀ s ∈ returnScenes m, s.user = "" := by
  have hcstr : ∀ s ∈ m.texts, cstr s = s := fun s hs => cstr_of_noNul (hnoNul s hs)
  have husers : (m.copy glm).scenes.map SceneDocument.user =
      (returnScenes m).map SceneDocument.user ↔ ∀ s ∈ returnScenes m, s.user = "" := by
    show ((returnScenes m).map (SceneDocument.copy glm)).map SceneDocument.user = _ ↔ _
    rw [List.map_map, List.map_inj_left]
    exact forall₂_congr fun s _ => eq_comm
  constructor
  · intro h
    exact ⟨h.encryptionPassword.symm, h.encryptionIv.symm, husers.mp h.users⟩
  · rintro ⟨hpassword, hiv, hempty⟩
    exact {
      msgType := getInt_uint htype htype' _
      errCode := getInt_uint herr herr' _
      errMsg := hcstr _ (by simp [SceneList.texts])
      transactionId := hcstr _ (by simp [SceneList.texts])
      eventDestinationHost := hcstr _ (by simp [SceneList.texts])
      encryptionPassword := hpassword.symm
      encryptionSalt := (if_pos hiv).trans (hcstr _ (by simp [SceneList.texts]))
      encryptionKey := by
        show (if m.encryptionKey = "" then _ else _) = m.encryptionKey
        split
        · next h => rw [hpassword, h]; rfl
        · exact hcstr _ (by simp [SceneList.texts])
      encryptionIv := hiv.symm
      decryptionPassword := hcstr _ (by simp [SceneList.texts])
      decryptionSalt := hcstr _ (by simp [SceneList.texts])
      decryptionKey := hcstr _ (by simp [SceneList.texts])
      decryptionIv := hcstr _ (by simp [SceneList.texts])
      users := husers.mpr hempty }

/-- A port that has been set is never restored. The password, the IV and the user of
a scene are lost where they are not empty, and the rest is restored where they are
empty. -/
theorem ofDocument_toMsgString_not_restored (unset port : ℤ) {m : SceneList R}
    (htype : 0 ≤ m.msgType) (htype' : m.msgType < 2 ^ 31) (herr : 0 ≤ m.errCode)
    (herr' : m.errCode < 2 ^ 31) (hport : m.eventDestinationPort = some port)
    (hnoNul : ∀ s ∈ m.texts, NoNul s) :
    (¬ ∃ m', ofDocument glm (toMsgString glm unset m) = .ok m' ∧ m.Restored m') ∧
    ((∃ m', ofDocument glm (toMsgString glm unset m) = .ok m' ∧ m.RestoredButPort m') ↔
      m.encryptionPassword = "" ∧ m.encryptionIv = "" ∧ ∀ s ∈ returnScenes m, s.user = "") := by
  rw [ofDocument_write]
  constructor
  · rintro ⟨m', ⟨rfl⟩, hm'⟩
    have hnone : none = m.eventDestinationPort := hm'.eventDestinationPort
    rw [hport] at hnone
    exact Option.some_ne_none port hnone.symm
  · rw [← restoredButPort_copy_iff glm htype htype' herr herr' hnoNul]
    exact ⟨by rintro ⟨m', ⟨rfl⟩, hm'⟩; exact hm', fun h => ⟨_, rfl, h⟩⟩

/-- A message with a port, a password and an IV. -/
def exampleSecret : SceneList ℝ where
  msgType := 0
  eventDestinationPort := some 8080
  encryptionPassword := "password"
  encryptionIv := "iv"

theorem ofDocument_toMsgString_not_restored_example :
    (¬ ∃ m', ofDocument Glm.real (toMsgString Glm.real 0 exampleSecret) = .ok m' ∧
      exampleSecret.Restored m') ∧
    ((∃ m', ofDocument Glm.real (toMsgString Glm.real 0 exampleSecret) = .ok m' ∧
        exampleSecret.RestoredButPort m') ↔
      exampleSecret.encryptionPassword = "" ∧ exampleSecret.encryptionIv = "" ∧
        ∀ s ∈ returnScenes exampleSecret, s.user = "") :=
  ofDocument_toMsgString_not_restored Glm.real 0 8080 (m := exampleSecret) (by decide) (by decide)
    (by decide) (by decide) rfl (by simp [SceneList.texts, exampleSecret, NoNul])

/-- The password becomes the key and the IV the salt. -/
theorem exampleSecret_not_restored :
    0 ≤ exampleSecret.msgType ∧ 0 ≤ exampleSecret.errCode ∧
    exampleSecret.eventDestinationPort = some 8080 ∧ (∀ s ∈ exampleSecret.texts, NoNul s) ∧
    ∃ m', ofDocument Glm.real (toMsgString Glm.real 0 exampleSecret) = .ok m' ∧
      m'.eventDestinationPort = none ∧ m'.encryptionPassword = "" ∧ m'.encryptionIv = "" ∧
      m'.encryptionKey = "password" ∧ m'.encryptionSalt = "iv" ∧ ¬ exampleSecret.Restored m' := by
  refine ⟨by decide, by decide, rfl, by simp [SceneList.texts, exampleSecret, NoNul], _,
    ofDocument_write Glm.real 0 exampleSecret, rfl, rfl, rfl, by decide, by decide, ?_⟩
  intro h
  exact absurd h.encryptionPassword (by decide)

end Secrets

end CrazyIvan
