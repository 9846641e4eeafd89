import CrazyIvan.Model.Transform

/-!
The data model of the source: user devices, scenes and scene lists, and the
result of processing a message.

Setters are structure updates. A getter that can fail returns in `Except Fail`:
`Fail.exn` is a C++ exception, `Fail.undefined` an access the language gives no
meaning to (a null pointer, an index past the end).
-/

namespace CrazyIvan

variable {R : Type}

/-- How a computation fails: with an exception and its text, or without any
meaning. -/
inductive Fail where
  | exn (what : String)
  | undefined
deriving DecidableEq, Repr

/-- An access that the language may give no meaning to. -/
def orUndefined {α : Type} : Option α → Except Fail α
  | some a => .ok a
  | none => .error .undefined

lemma bind_of_ok {α β : Type} (a : α) (f : α → Except Fail β) : (Except.ok a >>= f) = f a := rfl

lemma bind_of_error {α β : Type} (e : Fail) (f : α → Except Fail β) :
    (Except.error e >>= f) = .error e := rfl

lemma exists_of_bind_ok {α β : Type} {x : Except Fail α} {f : α → Except Fail β} {b : β}
    (h : (x >>= f) = .ok b) : ∃ a, x = .ok a ∧ f a = .ok b := by
  cases x with
  | error e => cases h
  | ok a => exact ⟨a, rfl, h⟩

lemma exists_of_map_ok {α β : Type} {x : Except Fail α} {f : α → β} {b : β}
    (h : x.map f = .ok b) : ∃ a, x = .ok a ∧ f a = b := by
  cases x with
  | error e => cases h
  | ok a => exact ⟨a, rfl, Except.ok.inj h⟩

lemma pure_eq_ok {α : Type} (a : α) : (pure a : Except Fail α) = .ok a := rfl

/-- The text of a `QueryException`. -/
def queryException (msg : String) : Fail := .exn ("Error in Query Helper: " ++ msg)

/-- The text of a `SceneException`. -/
def sceneException (msg : String) : Fail := .exn ("Error in Scene: " ++ msg)

/-- A loop that fails on no element. -/
lemma mapM_eq_ok_iff {α β : Type} {f : α → Except Fail β} {l : List α} {l' : List β} :
    l.mapM f = .ok l' ↔ List.Forall₂ (fun x y => f x = .ok y) l l' := by
  induction l generalizing l' with
  | nil => cases l' <;> simp [pure, Except.pure]
  | cons x l ih =>
      rw [List.mapM_cons]
      cases hx : f x with
      | error e => cases l' <;> simp [bind, Except.bind, hx]
      | ok y =>
          cases hl : l.mapM f with
          | error e => cases l' <;> simp [bind, Except.bind, ← ih, hl, hx]
          | ok ys => cases l' <;> simp [bind, Except.bind, pure, Except.pure, ← ih, hl, hx]

lemma exists_of_mapM {α β : Type} {f : α → Except Fail β} {l : List α} {l' : List β}
    (h : l.mapM f = .ok l') {x : α} (hx : x ∈ l) : ∃ y, f x = .ok y := by
  rw [mapM_eq_ok_iff] at h
  obtain ⟨i, hi, rfl⟩ := List.getElem_of_mem hx
  exact ⟨_, (List.forall₂_iff_get.mp h).2 i hi (h.length_eq ▸ hi)⟩

def sceneCrt : ℤ := 0
def sceneUpd : ℤ := 1
def sceneGet : ℤ := 2
def sceneDel : ℤ := 3
def sceneEnter : ℤ := 4
def sceneLeave : ℤ := 5
def deviceAlign : ℤ := 6
def deviceGet : ℤ := 7

def noError : ℤ := 100
def notFound : ℤ := 102
def translationError : ℤ := 110
def processingError : ℤ := 120
def insuffDataError : ℤ := 122

/-- Operation types. -/
def opAppend : ℤ := 10
def opRemove : ℤ := 11

/-- The kinds of scene query. -/
inductive CrudOp where
  | createQueryType
  | getQueryType
  | updateQueryType
  | deleteQueryType
deriving DecidableEq, Repr

/-! ### User devices -/

section Device

variable (R) [CommRing R]

/-- A device with its transform relative to a scene, if it has one. -/
structure UserDevice where
  key : String := ""
  connectionString : String := ""
  hostname : String := ""
  port : ℤ := 999999
  trans : Option (Transform R) := none

-- The coordinate of a scene that has none is a numeral by one instance in every module.
instance atLeastTwo_9999 : Nat.AtLeastTwo 9999 := ⟨by decide⟩

/-- A scene. -/
structure SceneDocument where
  key : String := ""
  name : String := ""
  region : String := ""
  description : String := ""
  thumbnail : String := ""
  user : String := ""
  latitude : R := -9999
  longitude : R := -9999
  distance : R := 0
  active : Bool := true
  isPublic : Bool := true
  assets : List String := []
  tags : List String := []
  devices : List (UserDevice R) := []
  sceneTransform : Option (Transform R) := none

/-- A scene message. The port is read before it is ever set, hence the
option. -/
structure SceneList where
  msgType : ℤ := -1
  opType : ℤ := opAppend
  errMsg : String := ""
  errCode : ℤ := noError
  transactionId : String := ""
  startRecord : ℤ := 0
  numRecords : ℤ := 10
  scenes : List (SceneDocument R) := []
  eventDestinationHost : String := ""
  eventDestinationPort : Option ℤ := none
  decryptionPassword : String := ""
  decryptionSalt : String := ""
  decryptionKey : String := ""
  decryptionIv : String := ""
  encryptionPassword : String := ""
  encryptionSalt : String := ""
  encryptionKey : String := ""
  encryptionIv : String := ""

end Device

variable [CommRing R]

namespace UserDevice

/-- `UserDevice::get_transform`: a null pointer where there is no transform. -/
def getTransform (d : UserDevice R) : Option (Transform R) := d.trans

/-- Dereferencing the transform. -/
def transform (d : UserDevice R) : Except Fail (Transform R) :=
  match d.trans with
  | some t => .ok t
  | none => .error .undefined

def setTranslation (d : UserDevice R) (index : Fin 3) (amt : R) : Except Fail (UserDevice R) :=
  match d.trans with
  | some t => .ok { d with trans := some (t.translate index amt) }
  | none => .error (sceneException "Attempting to update Device without transform")

def setRotation (glm : Glm R) (d : UserDevice R) (index : Fin 3) (amt : R) :
    Except Fail (UserDevice R) :=
  match d.trans with
  | some t => .ok { d with trans := some (t.rotate glm index amt) }
  | none => .error (sceneException "Attempting to update Device without transform")

end UserDevice

namespace SceneDocument

def numDevices (s : SceneDocument R) : ℕ := s.devices.length

def numAssets (s : SceneDocument R) : ℕ := s.assets.length

def numTags (s : SceneDocument R) : ℕ := s.tags.length

/-- `SceneData::get_device` indexes its vector unchecked. -/
def getDevice (s : SceneDocument R) (index : ℕ) : Except Fail (UserDevice R) :=
  match s.devices[index]? with
  | some d => .ok d
  | none => .error .undefined

def addDevice (s : SceneDocument R) (d : UserDevice R) : SceneDocument R :=
  { s with devices := s.devices ++ [d] }

def addAsset (s : SceneDocument R) (a : String) : SceneDocument R :=
  { s with assets := s.assets ++ [a] }

def addTag (s : SceneDocument R) (t : String) : SceneDocument R := { s with tags := s.tags ++ [t] }

/-- What is added goes behind what there is. -/
lemma foldl_addAsset (l : List String) (s : SceneDocument R) :
    l.foldl addAsset s = { s with assets := s.assets ++ l } := by
  induction l generalizing s with
  | nil => rw [List.foldl_nil, List.append_nil]
  | cons a l ih => rw [List.foldl_cons, ih, addAsset, List.append_assoc, List.singleton_append]

lemma foldl_addTag (l : List String) (s : SceneDocument R) :
    l.foldl addTag s = { s with tags := s.tags ++ l } := by
  induction l generalizing s with
  | nil => rw [List.foldl_nil, List.append_nil]
  | cons a l ih => rw [List.foldl_cons, ih, addTag, List.append_assoc, List.singleton_append]

end SceneDocument

namespace SceneList

def numScenes (m : SceneList R) : ℕ := m.scenes.length

def getScene (m : SceneList R) (i : ℕ) : Except Fail (SceneDocument R) :=
  match m.scenes[i]? with
  | some s => .ok s
  | none => .error (sceneException "Attempted to access invalid scene data")

def addScene (m : SceneList R) (s : SceneDocument R) : SceneList R :=
  { m with scenes := m.scenes ++ [s] }

/-- `get_scene(i)->...`, changing a scene in place. -/
def updateScene (m : SceneList R) (i : ℕ) (f : SceneDocument R → SceneDocument R) :
    Except Fail (SceneList R) :=
  match m.scenes[i]? with
  | some s => .ok { m with scenes := m.scenes.set i (f s) }
  | none => .error (sceneException "Attempted to access invalid scene data")

end SceneList

/-! ### Results -/

section Result

variable (R)

/-- What a result carries back: a key, or a message in its written form. -/
inductive ReturnStr where
  | str (s : String)
  | msg (m : SceneList R)

/-- The result of processing a message. -/
structure ProcessResult where
  errCode : ℤ := 100
  errDesc : String := ""
  returnStr : ReturnStr R := .str ""
  success : Bool := true

end Result

namespace ProcessResult

def successful (r : ProcessResult R) : Bool := r.success

def setError (_ : ProcessResult R) (ecode : ℤ) (edesc : String) : ProcessResult R :=
  { errCode := ecode, errDesc := edesc, returnStr := .str "", success := false }

def setReturnString (r : ProcessResult R) (s : ReturnStr R) : ProcessResult R :=
  { r with returnStr := s }

/-- The message a result carries. -/
def message? (r : ProcessResult R) : Option (SceneList R) :=
  match r.returnStr with
  | .msg m => some m
  | .str _ => none

end ProcessResult

end CrazyIvan
