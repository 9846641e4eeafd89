import CrazyIvan.Api.Coordinates

/-!
The decoder on any document.

* `normal`: the document without the members and elements that have the wrong type.
* `WellFormed`: no port that is a string, objects for the elements of the scene and
  device lists and for transforms, at most three coordinates, and nothing of the
  right type behind what has the wrong one that would be read in its place.
* `ofDocument_normal_iff`: the well-formed documents are those that are read, and
  read as they are without what has the wrong type.
-/

namespace CrazyIvan

open Geometry Json Json.Value

variable {R : Type} [CommRing R] (glm : Glm R)

/-! ### The document without what has the wrong type -/

/-- A member of a transform: an array, of numbers. -/
def normalTransformMember (name : String) (v : Value R) : Option (Value R) :=
  if cstr name = "translation" ∨ cstr name = "rotation" then
    v.getArray.map fun l => .array (l.filter fun v => v.getNumber.isSome)
  else some v

/-- A transform: an object. -/
def normalTransform (v : Value R) : Option (Value R) :=
  v.getObject.map fun tms => .object (mapMembers normalTransformMember tms)

def normalDeviceMember (name : String) (v : Value R) : Option (Value R) :=
  if name ∈ ["key", "connection_string", "hostname"] then ofType getString v
  else if name = "port" then ofType getInt v
  else if name = "transform" then normalTransform v
  else some v

def normalDevice (v : Value R) : Option (Value R) :=
  v.getObject.map fun ms => .object (mapMembers normalDeviceMember ms)

def normalSceneMember (name : String) (v : Value R) : Option (Value R) :=
  if name ∈ ["key", "name", "description", "thumbnail", "region"] then ofType getString v
  else if name ∈ ["active", "public", "private"] then ofType getBool v
  else if name ∈ ["latitude", "longitude", "distance"] then ofType getNumber v
  else if name ∈ ["assets", "tags"] then
    v.getArray.map fun l => .array (l.filter fun v => v.isString)
  else if name = "transform" then normalTransform v
  else if name = "devices" then v.getArray.map fun l => .array (l.filterMap normalDevice)
  else some v

def normalScene (v : Value R) : Option (Value R) :=
  v.getObject.map fun ms => .object (mapMembers normalSceneMember ms)

def normalMessageMember (name : String) (v : Value R) : Option (Value R) :=
  if name ∈ ["msg_type", "operation", "event_destination_port", "err_code", "num_records",
      "start_record"] then ofType getInt v
  else if name ∈ ["transaction_id", "encryption_password", "encryption_salt", "encryption_key",
      "encryption_iv", "decryption_password", "decryption_salt", "decryption_key",
      "decryption_iv", "event_destination_host", "err_msg"] then ofType getString v
  else if name = "scenes" then v.getArray.map fun l => .array (l.filterMap normalScene)
  else some v

/-- The document without the members and elements that have the wrong type. -/
def normal : Value R → Value R
  | .object ms => .object (mapMembers normalMessageMember ms)
  | d => d

/-! ### Well-formed documents -/

section Says

variable {α : Type}

/-- The first member of a name says what the first of the right type says, or else what is
assumed without one. -/
def Says (get : Value R → Option α) (ms : List (String × Value R)) (name : String)
    (default : α) : Prop :=
  (member? get ms name).getD default = (typed? get ms name).getD default

/-- The same for a member that goes before another one. -/
def SaysOver (get : Value R → Option α) (ms : List (String × Value R)) (name name' : String)
    (default : α) : Prop :=
  (member? get ms name).getD ((member? get ms name').getD default) =
    (typed? get ms name).getD ((typed? get ms name').getD default)

end Says

/-- The strings of the first member of a name are those of the first array. -/
def ListsStrings (ms : List (String × Value R)) (name : String) : Prop :=
  stringsOf ms name = ((typed? getArray ms name).getD []).filterMap getString

/-- At most three places, whose coordinates come to the same when the arrays are closed up. -/
def CoordinatesWellFormed (tms : List (String × Value R)) : Prop :=
  (∀ member ∈ tms, MemberWellFormed member) ∧
    translationOf (coordinates "translation" tms) =
      translationOf (coordinates "translation" (mapMembers normalTransformMember tms)) ∧
    rotationOf glm (coordinates "rotation" tms) =
      rotationOf glm (coordinates "rotation" (mapMembers normalTransformMember tms))

/-- A transform is an object, if it is there; another value stands for a new transform, as
an object without coordinates does. -/
def TransformWellFormed (ms : List (String × Value R)) : Prop :=
  match ms.lookup "transform" with
  | none => True
  | some (.object tms) => CoordinatesWellFormed glm tms
  | some _ => ∃ tms, typed? getObject ms "transform" = some tms ∧
      NoNumbers "translation" tms ∧ NoNumbers "rotation" tms

/-- What is read of a device beside its key. -/
def DeviceFieldsKept (ms : List (String × Value R)) : Prop :=
  (∀ name ∈ ["connection_string", "hostname"], Says getString ms name "") ∧
    Says getInt ms "port" 999999

/-- An object, and with a key one whose members are read; without a key at its first place,
it has none at all. -/
def DeviceWellFormed (d : Value R) : Prop :=
  ∃ ms, d = .object ms ∧
    match member? getString ms "key" with
    | some _ => DeviceFieldsKept ms ∧ TransformWellFormed glm ms
    | none => typed? getString ms "key" = none

/-- What no device is made of. -/
def NoDevice (d : Value R) : Prop := ∀ ms, d = .object ms → typed? getString ms "key" = none

/-- The members of a scene that are read as they are. -/
structure SceneFieldsKept (ms : List (String × Value R)) : Prop where
  strings : ∀ name ∈ ["key", "name", "description", "thumbnail", "region"],
    Says getString ms name ""
  active : Says getBool ms "active" true
  isPublic : (member? getBool ms "private").getD (!(member? getBool ms "public").getD true) =
    (typed? getBool ms "private").getD (!(typed? getBool ms "public").getD true)
  numbers : ∀ field ∈ [("latitude", (-9999 : R)), ("longitude", -9999), ("distance", 0)],
    Says getNumber ms field.1 field.2
  lists : ∀ name ∈ ["assets", "tags"], ListsStrings ms name

/-- A list whose elements are well formed; behind a list that is no array there is none with
an element that counts. -/
def ListWellFormed (WellFormed Nothing : Value R → Prop) (ms : List (String × Value R))
    (name : String) : Prop :=
  match member? getArray ms name with
  | some l => ∀ d ∈ l, WellFormed d
  | none => ∀ l, typed? getArray ms name = some l → ∀ d ∈ l, Nothing d

def SceneWellFormed (d : Value R) : Prop :=
  ∃ ms, d = .object ms ∧ SceneFieldsKept ms ∧ TransformWellFormed glm ms ∧
    ListWellFormed (DeviceWellFormed glm) NoDevice ms "devices"

/-- The members of a message that are read as they are. -/
structure MessageFieldsKept (ms : List (String × Value R)) : Prop where
  ints : ∀ field ∈ [("msg_type", -1), ("operation", opAppend), ("err_code", noError),
    ("num_records", 10), ("start_record", 0)], Says getInt ms field.1 field.2
  strings : ∀ name ∈ ["transaction_id", "decryption_password", "decryption_salt",
    "decryption_key", "decryption_iv", "event_destination_host", "err_msg"],
    Says getString ms name ""
  encryptionKey : SaysOver getString ms "encryption_key" "encryption_password" ""
  encryptionSalt : SaysOver getString ms "encryption_iv" "encryption_salt" ""

/-- A document that is no object, or one without a port that is a string, in which nothing
of the right type stands behind a member of the wrong type or past its place. -/
def WellFormed (d : Value R) : Prop :=
  ∀ ms, d = .object ms → member? getString ms "event_destination_port" = none ∧
    MessageFieldsKept ms ∧
    ListWellFormed (SceneWellFormed glm) (fun s => s.getObject = none) ms "scenes"

/-! ### The same result -/

section Agree

variable {α β γ : Type}

/-- Both succeed, with the same result. -/
def Agree (a b : Except Fail α) : Prop := ∃ x, a = .ok x ∧ b = .ok x

lemma agree_ok_iff (x : α) (b : Except Fail α) : Agree (.ok x) b ↔ b = .ok x :=
  ⟨by rintro ⟨_, ⟨⟩, h⟩; exact h, fun h => ⟨x, rfl, h⟩⟩

lemma not_agree_error (e : Fail) (b : Except Fail α) : ¬ Agree (.error e) b := by
  rintro ⟨_, ⟨⟩, _⟩

/-- Results put together from parts that can be told apart, where `C` says that what is
put around them is the same. -/
lemma agree_bind_iff {f g : α → β → γ} {C : Prop}
    (hf : ∀ x y x' y', f x y = g x' y' ↔ C ∧ x = x' ∧ y = y') (a a' : Except Fail α)
    (b b' : Except Fail β) :
    Agree (a >>= fun x => b.map (f x)) (a' >>= fun x => b'.map (g x)) ↔
      C ∧ Agree a a' ∧ Agree b b' := by
  constructor
  · rintro ⟨z, h, h'⟩
    obtain ⟨x, rfl, h⟩ := exists_of_bind_ok h
    obtain ⟨y, rfl, rfl⟩ := exists_of_map_ok h
    obtain ⟨x', rfl, h'⟩ := exists_of_bind_ok h'
    obtain ⟨y', rfl, h'⟩ := exists_of_map_ok h'
    obtain ⟨hC, rfl, rfl⟩ := (hf x y x' y').mp (Except.ok.inj h').symm
    exact ⟨hC, ⟨x, rfl, rfl⟩, ⟨y, rfl, rfl⟩⟩
  · rintro ⟨hC, ⟨x, rfl, rfl⟩, ⟨y, rfl, rfl⟩⟩
    exact ⟨f x y, rfl, congrArg Except.ok ((hf x y x y).mpr ⟨hC, rfl, rfl⟩).symm⟩

lemma agree_map_iff {f g : β → γ} {C : Prop} (hf : ∀ y y', f y = g y' ↔ C ∧ y = y')
    (b b' : Except Fail β) : Agree (b.map f) (b'.map g) ↔ C ∧ Agree b b' := by
  have h := agree_bind_iff (f := fun _ : Unit => f) (g := fun _ => g)
    (fun x y x' y' => by rw [hf, and_iff_right (Subsingleton.elim x x')]) (.ok ()) (.ok ()) b b'
  rwa [and_iff_right (show Agree (.ok ()) (.ok ()) from ⟨(), rfl, rfl⟩)] at h

end Agree

/-! ### Transforms -/

section Members

variable {glm}

/-- What is left of a member, for a name that is read. -/
lemma normalTransformMember_eq {name : String} (hname : cstr name = "translation" ∨
    cstr name = "rotation") (v : Value R) : normalTransformMember name v =
      v.getArray.map fun l => .array (l.filter fun v => v.getNumber.isSome) := if_pos hname

/-- What is left of a well-formed member is well formed: it has three numbers at most. -/
lemma memberWellFormed_normal {tms : List (String × Value R)}
    (h : ∀ member ∈ tms, MemberWellFormed member) :
    ∀ member ∈ mapMembers normalTransformMember tms, MemberWellFormed member := by
  refine forall_mem_mapMembers.mpr fun member hmem v hv hname => ?_
  rw [normalTransformMember_eq hname] at hv
  obtain ⟨l, hl, rfl⟩ := Option.map_eq_some_iff.mp hv
  have hdrop : ∀ v ∈ l.drop 3, v.getNumber = none := by simpa [hl] using h member hmem hname
  have hlen : (l.filter fun v => v.getNumber.isSome).length ≤ 3 := by
    have hrest : (l.drop 3).filter (fun v => v.getNumber.isSome) = [] :=
      List.filter_eq_nil_iff.mpr fun v hv => by simp [hdrop v hv]
    calc (l.filter fun v => v.getNumber.isSome).length
        = ((l.take 3 ++ l.drop 3).filter fun v => v.getNumber.isSome).length := by
          rw [List.take_append_drop]
      _ = ((l.take 3).filter fun v => v.getNumber.isSome).length := by
          rw [List.filter_append, hrest, List.append_nil]
      _ ≤ (l.take 3).length := List.length_filter_le _ _
      _ ≤ 3 := List.length_take_le _ _
  rw [getArray_array, Option.getD_some, List.drop_eq_nil_of_le hlen]
  simp

lemma noNumbers_normal_iff {name : String} (hname : name = "translation" ∨ name = "rotation")
    (tms : List (String × Value R)) :
    NoNumbers name (mapMembers normalTransformMember tms) ↔ NoNumbers name tms := by
  refine forall_mem_mapMembers.trans (forall₂_congr fun member hmem => ?_)
  by_cases hn : cstr member.1 = name
  · rw [normalTransformMember_eq (by rwa [hn])]
    cases hv : member.2.getArray with
    | none => simp
    | some l => simp [hn, Option.isSome_iff_ne_none]
  · simp [hn]

end Members

lemma readTransform_object (tms : List (String × Value R)) :
    readTransform glm (.object tms) = tms.foldlM (readTransformMember glm) Transform.new := rfl

/-- A transform that is an object is read, and read as it is without what has the wrong
type, if its coordinates are well formed. -/
lemma readTransform_normal_iff (tms : List (String × Value R)) :
    Agree (readTransform glm (.object tms))
        (readTransform glm (.object (mapMembers normalTransformMember tms))) ↔
      CoordinatesWellFormed glm tms := by
  rw [readTransform_object, readTransform_object, CoordinatesWellFormed]
  by_cases hwell : ∀ member ∈ tms, MemberWellFormed member
  · have hnormal := memberWellFormed_normal hwell
    have hnil : ∀ name, name = "translation" ∨ name = "rotation" →
        (coordinates name tms = [] ↔
          coordinates name (mapMembers normalTransformMember tms) = []) := fun name hname => by
      rw [coordinates_eq_nil_iff hname hwell, coordinates_eq_nil_iff hname hnormal,
        noNumbers_normal_iff hname]
    rw [foldlM_readTransformMember hwell, foldlM_readTransformMember hnormal, agree_ok_iff,
      Except.ok.injEq, eq_comm, Transform.moved_new_inj (hnil _ (.inl rfl)) (hnil _ (.inr rfl)),
      and_iff_right hwell]
  · refine iff_of_false ?_ fun h => hwell h.1
    rintro ⟨t, ht, -⟩
    exact hwell (membersWellFormed_of_read ht)

/-- An object without coordinates is read as a new transform. -/
lemma readTransform_normal_eq_new_iff (tms : List (String × Value R)) :
    readTransform glm (.object (mapMembers normalTransformMember tms)) = .ok Transform.new ↔
      NoNumbers "translation" tms ∧ NoNumbers "rotation" tms := by
  rw [readTransform_object, ← noNumbers_normal_iff (.inl rfl) tms,
    ← noNumbers_normal_iff (.inr rfl) tms]
  by_cases hwell : ∀ member ∈ mapMembers normalTransformMember tms, MemberWellFormed member
  · rw [foldlM_readTransformMember hwell, Except.ok.injEq, Transform.moved_new_eq_new_iff,
      coordinates_eq_nil_iff (.inl rfl) hwell, coordinates_eq_nil_iff (.inr rfl) hwell]
  · refine iff_of_false (fun h => hwell (membersWellFormed_of_read h)) ?_
    rintro ⟨htranslation, hrotation⟩
    refine hwell fun member hmem hname v hv => ?_
    rcases hname with hname | hname
    · exact htranslation member hmem hname v (List.mem_of_mem_drop hv)
    · exact hrotation member hmem hname v (List.mem_of_mem_drop hv)

lemma agree_map_some_iff {α : Type} (a b : Except Fail α) :
    Agree (a.map some) (b.map some) ↔ Agree a b :=
  (agree_map_iff (C := True) (fun x y => by simp) a b).trans (and_iff_right trivial)

/-- What is no object stands for a new transform. -/
lemma transformWellFormed_iff_of_not_object {ms : List (String × Value R)} {v : Value R}
    (hv : ms.lookup "transform" = some v) (hobject : v.getObject = none) :
    TransformWellFormed glm ms ↔ ∃ tms, typed? getObject ms "transform" = some tms ∧
      NoNumbers "translation" tms ∧ NoNumbers "rotation" tms := by
  rw [TransformWellFormed, hv]
  cases v <;> first | rfl | cases hobject

/-- The transform of an object is read, and read as it is without what has the wrong type,
if it is well formed. -/
lemma transformOf_normal_iff {f : String → Value R → Option (Value R)}
    (hf : f "transform" = normalTransform) (ms : List (String × Value R)) :
    Agree (transformOf glm ms) (transformOf glm (mapMembers f ms)) ↔
      TransformWellFormed glm ms := by
  have hlookup : (mapMembers f ms).lookup "transform" = (typed? getObject ms "transform").map
      fun tms => .object (mapMembers normalTransformMember tms) :=
    lookup_mapMembers_map fun v => by rw [hf]; rfl
  rw [transformOf, transformOf, hlookup]
  cases hv : ms.lookup "transform" with
  | none =>
      -- There is no such member, hence none of the right type.
      have hnone : typed? getObject ms "transform" = none := by
        cases h : typed? getObject ms "transform" with
        | none => rfl
        | some tms => simpa [hv] using lookup_isSome_of_typed? h
      rw [hnone, TransformWellFormed, hv]
      exact iff_of_true ⟨none, rfl, rfl⟩ trivial
  | some v =>
      cases hobject : v.getObject with
      | some tms =>
          obtain rfl : v = .object tms := by
            cases v <;> simp [getObject] at hobject
            rw [hobject]
          have htyped : typed? getObject ms "transform" = some tms :=
            typed?_of_member? (by rw [member?, hv]; rfl)
          rw [htyped, TransformWellFormed, hv]
          exact (agree_map_some_iff _ _).trans (readTransform_normal_iff glm tms)
      | none =>
          -- The member is read as the identity; a later one may be an object.
          have hread : readTransform glm v = .ok Transform.new := by
            rw [readTransform, isObject, hobject]
            rfl
          rw [transformWellFormed_iff_of_not_object glm hv hobject]
          dsimp only
          rw [hread]
          cases htyped : typed? getObject ms "transform" with
          | none => exact iff_of_false (by rintro ⟨_, ⟨⟩, ⟨⟩⟩) (by simp)
          | some tms =>
              rw [Option.map_some]
              refine (agree_map_some_iff (.ok Transform.new) _).trans ?_
              rw [agree_ok_iff, readTransform_normal_eq_new_iff]
              simp

/-! ### Devices -/

section Fields

variable {ms : List (String × Value R)}

lemma deviceFields_normal_iff (key : String) (t t' : Option (Transform R)) :
    { deviceFields ms key with trans := t } =
        { deviceFields (mapMembers normalDeviceMember ms) key with trans := t' } ↔
      DeviceFieldsKept ms ∧ t = t' := by
  have hstr : ∀ name ∈ ["connection_string", "hostname"],
      member? getString (mapMembers normalDeviceMember ms) name = typed? getString ms name := by
    intro name hname
    refine member?_mapMembers (funext fun v => ?_)
    rw [normalDeviceMember, if_pos (List.mem_cons_of_mem _ hname)]
  have hport : member? getInt (mapMembers normalDeviceMember ms) "port" = typed? getInt ms "port" :=
    member?_mapMembers (funext fun v => by simp [normalDeviceMember])
  simp only [deviceFields, UserDevice.mk.injEq, hport, hstr "connection_string" (by simp),
    hstr "hostname" (by simp), DeviceFieldsKept, Says, List.forall_mem_cons, List.not_mem_nil,
    false_imp_iff, implies_true, and_true, true_and, and_assoc]

end Fields

/-- The devices of a list that have a key. -/
def keyedDevices (l : List (Value R)) : Except Fail (List (UserDevice R)) :=
  (l.mapM (deviceOf glm)).map List.reduceOption

lemma keyedDevices_cons (d : Value R) (l : List (Value R)) :
    keyedDevices glm (d :: l) =
      deviceOf glm d >>= fun dev => (keyedDevices glm l).map (dev.toList ++ ·) := by
  rw [keyedDevices, keyedDevices, List.mapM_cons]
  cases deviceOf glm d with
  | error e => rfl
  | ok dev =>
      cases l.mapM (deviceOf glm) with
      | error e => rfl
      | ok devs => cases dev <;> rfl

/-- An object with a key is a device, if its transform is read. -/
lemma keyedDevices_cons_of_key {ms : List (String × Value R)} {key : String}
    (hkey : member? getString ms "key" = some key) (l : List (Value R)) :
    keyedDevices glm (.object ms :: l) = transformOf glm ms >>= fun t =>
      (keyedDevices glm l).map fun devs => { deviceFields ms key with trans := t } :: devs := by
  rw [keyedDevices_cons, deviceOf, hkey]
  cases transformOf glm ms <;> rfl

/-- One without is passed over. -/
lemma keyedDevices_cons_of_no_key {ms : List (String × Value R)}
    (hkey : member? getString ms "key" = none) (l : List (Value R)) :
    keyedDevices glm (.object ms :: l) = keyedDevices glm l := by
  rw [keyedDevices_cons, deviceOf, hkey]
  cases keyedDevices glm l <;> rfl

lemma normalDevice_object (ms : List (String × Value R)) :
    normalDevice (.object ms) = some (.object (mapMembers normalDeviceMember ms)) := rfl

lemma key_normalDevice (ms : List (String × Value R)) :
    member? getString (mapMembers normalDeviceMember ms) "key" = typed? getString ms "key" :=
  member?_mapMembers (funext fun v => by simp [normalDeviceMember])

/-- Without what has the wrong type there are no fewer devices. -/
lemma length_le_of_keyedDevices_normal {l : List (Value R)} {devs devs' : List (UserDevice R)}
    (h : keyedDevices glm l = .ok devs)
    (h' : keyedDevices glm (l.filterMap normalDevice) = .ok devs') :
    devs.length ≤ devs'.length := by
  induction l generalizing devs devs' with
  | nil =>
      cases h
      exact Nat.zero_le _
  | cons d l ih =>
      cases d with
      | object ms =>
          rw [List.filterMap_cons_some (normalDevice_object ms)] at h'
          cases hkey : member? getString ms "key" with
          | some key =>
              have hkey' := (key_normalDevice ms).trans (typed?_of_member? hkey)
              rw [keyedDevices_cons_of_key glm hkey] at h
              rw [keyedDevices_cons_of_key glm hkey'] at h'
              obtain ⟨t, -, h⟩ := exists_of_bind_ok h
              obtain ⟨t', -, h'⟩ := exists_of_bind_ok h'
              obtain ⟨rest, hrest, rfl⟩ := exists_of_map_ok h
              obtain ⟨rest', hrest', rfl⟩ := exists_of_map_ok h'
              exact Nat.succ_le_succ (ih hrest hrest')
          | none =>
              rw [keyedDevices_cons_of_no_key glm hkey] at h
              rcases hkey' : member? getString (mapMembers normalDeviceMember ms) "key" with _ | key
              · rw [keyedDevices_cons_of_no_key glm hkey'] at h'
                exact ih h h'
              · rw [keyedDevices_cons_of_key glm hkey'] at h'
                obtain ⟨t', -, h'⟩ := exists_of_bind_ok h'
                obtain ⟨rest', hrest', rfl⟩ := exists_of_map_ok h'
                exact (ih h hrest').trans (Nat.le_succ _)
      | _ =>
          rw [keyedDevices_cons] at h
          cases h

lemma keyedDevices_normal_iff (l : List (Value R)) :
    Agree (keyedDevices glm l) (keyedDevices glm (l.filterMap normalDevice)) ↔
      ∀ d ∈ l, DeviceWellFormed glm d := by
  induction l with
  | nil => exact iff_of_true ⟨[], rfl, rfl⟩ (by simp)
  | cons d l ih =>
      rw [List.forall_mem_cons]
      cases d with
      | object ms =>
          have hwell : DeviceWellFormed glm (.object ms) ↔
              match member? getString ms "key" with
              | some _ => DeviceFieldsKept ms ∧ TransformWellFormed glm ms
              | none => typed? getString ms "key" = none :=
            ⟨by rintro ⟨_, ⟨rfl⟩, h⟩; exact h, fun h => ⟨ms, rfl, h⟩⟩
          rw [hwell, List.filterMap_cons_some (normalDevice_object ms)]
          cases hkey : member? getString ms "key" with
          | some key =>
              have hkey' := (key_normalDevice ms).trans (typed?_of_member? hkey)
              rw [keyedDevices_cons_of_key glm hkey, keyedDevices_cons_of_key glm hkey',
                agree_bind_iff (C := DeviceFieldsKept ms) (fun t devs t' devs' => by
                  rw [List.cons.injEq, deviceFields_normal_iff, and_assoc]),
                transformOf_normal_iff glm rfl, ih, and_assoc]
          | none =>
              rw [keyedDevices_cons_of_no_key glm hkey]
              rcases htyped : typed? getString ms "key" with _ | key
              · have hkey' := (key_normalDevice ms).trans htyped
                rw [keyedDevices_cons_of_no_key glm hkey', ih]
                exact (and_iff_right rfl).symm
              · have hkey' := (key_normalDevice ms).trans htyped
                rw [keyedDevices_cons_of_key glm hkey']
                refine iff_of_false ?_ fun h => by cases h.1
                -- a device more, and none is missing
                rintro ⟨devs, hdevs, hdevs'⟩
                obtain ⟨t', -, hdevs'⟩ := exists_of_bind_ok hdevs'
                obtain ⟨rest', hrest', rfl⟩ := exists_of_map_ok hdevs'
                exact absurd (length_le_of_keyedDevices_normal glm hdevs hrest') (by simp)
      | _ =>
          refine iff_of_false ?_ fun h => by obtain ⟨_, ⟨⟩, _⟩ := h.1
          rw [keyedDevices_cons]
          exact not_agree_error _ _

/-- There are no devices where no element has a key. -/
lemma keyedDevices_normal_eq_nil_iff (l : List (Value R)) :
    keyedDevices glm (l.filterMap normalDevice) = .ok [] ↔ ∀ d ∈ l, NoDevice d := by
  induction l with
  | nil => exact iff_of_true rfl (by simp)
  | cons d l ih =>
      rw [List.forall_mem_cons]
      cases d with
      | object ms =>
          have hno : NoDevice (.object ms) ↔ typed? getString ms "key" = none :=
            ⟨fun h => h ms rfl, by rintro h _ ⟨rfl⟩; exact h⟩
          rw [hno, List.filterMap_cons_some (normalDevice_object ms)]
          cases hkey : typed? getString ms "key" with
          | none =>
              rw [keyedDevices_cons_of_no_key glm ((key_normalDevice ms).trans hkey), ih]
              exact (and_iff_right rfl).symm
          | some key =>
              rw [keyedDevices_cons_of_key glm ((key_normalDevice ms).trans hkey)]
              refine iff_of_false (fun h => ?_) fun h => by cases h.1
              obtain ⟨t, -, h⟩ := exists_of_bind_ok h
              obtain ⟨devs, -, ⟨⟩⟩ := exists_of_map_ok h
      | _ => exact ih.trans (and_iff_right (by rintro _ ⟨⟩)).symm

/-! ### Scenes and messages -/

omit [CommRing R] in
/-- The elements of a list without those of the wrong type. -/
lemma elementsOf_mapMembers {f : String → Value R → Option (Value R)} {name : String}
    {g : Value R → Option (Value R)} {ms : List (String × Value R)}
    (hf : ∀ v, f name v = v.getArray.map fun l => .array (l.filterMap g)) :
    elementsOf (mapMembers f ms) name =
      ((typed? getArray ms name).map (List.filterMap g)).getD [] := by
  rw [elementsOf, member?, lookup_mapMembers_map hf]
  cases typed? getArray ms name <;> rfl

omit [CommRing R] in
/-- What is read of a list, with and without what has the wrong type. -/
lemma agree_elementsOf_iff {α : Type} (read : List (Value R) → Except Fail (List α))
    {f : String → Value R → Option (Value R)} {name : String}
    {g : Value R → Option (Value R)} {Well Nothing : Value R → Prop}
    (hf : ∀ v, f name v = v.getArray.map fun l => .array (l.filterMap g)) (hnil : read [] = .ok [])
    (hread : ∀ l, Agree (read l) (read (l.filterMap g)) ↔ ∀ d ∈ l, Well d)
    (hnothing : ∀ l : List (Value R), read (l.filterMap g) = .ok [] ↔ ∀ d ∈ l, Nothing d)
    (ms : List (String × Value R)) :
    Agree (read (elementsOf ms name)) (read (elementsOf (mapMembers f ms) name)) ↔
      ListWellFormed Well Nothing ms name := by
  rw [elementsOf_mapMembers hf, elementsOf, ListWellFormed]
  cases hmember : member? getArray ms name with
  | some l =>
      rw [typed?_of_member? hmember]
      exact hread l
  | none =>
      rw [Option.getD_none, hnil, agree_ok_iff]
      cases typed? getArray ms name with
      | none => exact iff_of_true hnil (by rintro _ ⟨⟩)
      | some l =>
          refine (hnothing l).trans ⟨?_, fun h => h l rfl⟩
          rintro h _ ⟨rfl⟩
          exact h

omit [CommRing R] in
/-- The strings of a list are those of the first array. -/
lemma stringsOf_mapMembers {f : String → Value R → Option (Value R)} {name : String}
    (hf : ∀ v, f name v = v.getArray.map fun l => .array (l.filter fun v => v.isString))
    (ms : List (String × Value R)) : stringsOf (mapMembers f ms) name =
      ((typed? getArray ms name).getD []).filterMap getString := by
  have hstrings : ∀ l : List (Value R),
      (l.filter fun v => v.isString).filterMap getString = l.filterMap getString := by
    intro l
    rw [List.filterMap_filter]
    refine List.filterMap_congr fun v _ => ?_
    cases hv : v.getString <;> simp [isString, hv]
  rw [stringsOf, member?, lookup_mapMembers_map hf]
  cases typed? getArray ms name with
  | none => rfl
  | some l => exact hstrings l

lemma sceneFields_normal_iff {ms : List (String × Value R)} (t t' : Option (Transform R))
    (devs devs' : List (UserDevice R)) :
    { sceneFields ms with sceneTransform := t, devices := devs } =
        { sceneFields (mapMembers normalSceneMember ms) with
          sceneTransform := t', devices := devs' } ↔
      SceneFieldsKept ms ∧ t = t' ∧ devs = devs' := by
  have hstr : ∀ name ∈ ["key", "name", "description", "thumbnail", "region"],
      member? getString (mapMembers normalSceneMember ms) name = typed? getString ms name :=
    fun name hname => member?_mapMembers (funext fun v => by rw [normalSceneMember, if_pos hname])
  have hbool : ∀ name ∈ ["active", "public", "private"],
      member? getBool (mapMembers normalSceneMember ms) name = typed? getBool ms name := by
    intro name hname
    refine member?_mapMembers (funext fun v => ?_)
    rw [normalSceneMember, if_neg (by revert name; decide), if_pos hname]
  have hnum : ∀ name ∈ ["latitude", "longitude", "distance"],
      member? getNumber (mapMembers normalSceneMember ms) name = typed? getNumber ms name := by
    intro name hname
    refine member?_mapMembers (funext fun v => ?_)
    rw [normalSceneMember, if_neg (by revert name; decide), if_neg (by revert name; decide),
      if_pos hname]
  have hlist : ∀ name ∈ ["assets", "tags"], stringsOf (mapMembers normalSceneMember ms) name =
      ((typed? getArray ms name).getD []).filterMap getString := by
    intro name hname
    refine stringsOf_mapMembers (fun v => ?_) ms
    rw [normalSceneMember, if_neg (by revert name; decide), if_neg (by revert name; decide),
      if_neg (by revert name; decide), if_pos hname]
  have hkept : SceneFieldsKept ms ↔
      (∀ name ∈ ["key", "name", "description", "thumbnail", "region"], Says getString ms name "") ∧
      Says getBool ms "active" true ∧
      (member? getBool ms "private").getD (!(member? getBool ms "public").getD true) =
        (typed? getBool ms "private").getD (!(typed? getBool ms "public").getD true) ∧
      (∀ field ∈ [("latitude", (-9999 : R)), ("longitude", -9999), ("distance", 0)],
        Says getNumber ms field.1 field.2) ∧
      ∀ name ∈ ["assets", "tags"], ListsStrings ms name :=
    ⟨fun h => ⟨h.strings, h.active, h.isPublic, h.numbers, h.lists⟩,
      fun ⟨h₁, h₂, h₃, h₄, h₅⟩ => ⟨h₁, h₂, h₃, h₄, h₅⟩⟩
  simp only [sceneFields, SceneDocument.mk.injEq, hstr "key" (by simp), hstr "name" (by simp),
    hstr "description" (by simp), hstr "thumbnail" (by simp), hstr "region" (by simp),
    hbool "active" (by simp), hbool "public" (by simp), hbool "private" (by simp),
    hnum "latitude" (by simp), hnum "longitude" (by simp), hnum "distance" (by simp),
    hlist "assets" (by simp), hlist "tags" (by simp), hkept, Says, ListsStrings,
    List.forall_mem_cons, List.not_mem_nil, false_imp_iff, implies_true, and_true, true_and,
    Bool.not_inj_iff]
  tauto

lemma sceneOf_normal_iff (ms : List (String × Value R)) :
    Agree (sceneOf glm (.object ms)) (sceneOf glm (.object (mapMembers normalSceneMember ms))) ↔
      SceneWellFormed glm (.object ms) := by
  have hwell : SceneWellFormed glm (.object ms) ↔ SceneFieldsKept ms ∧
      TransformWellFormed glm ms ∧ ListWellFormed (DeviceWellFormed glm) NoDevice ms "devices" :=
    ⟨by rintro ⟨_, ⟨rfl⟩, h⟩; exact h, fun h => ⟨ms, rfl, h⟩⟩
  have hscene : ∀ ms : List (String × Value R), sceneOf glm (.object ms) =
      transformOf glm ms >>= fun sceneTransform => (keyedDevices glm (elementsOf ms "devices")).map
        fun devices => { sceneFields ms with sceneTransform, devices } := by
    intro ms
    rw [sceneOf, keyedDevices]
    cases transformOf glm ms with
    | error e => rfl
    | ok t => cases (elementsOf ms "devices").mapM (deviceOf glm) <;> rfl
  rw [hscene, hscene, hwell, agree_bind_iff (C := SceneFieldsKept ms)
      (fun t devs t' devs' => sceneFields_normal_iff t t' devs devs'),
    transformOf_normal_iff glm rfl,
    agree_elementsOf_iff (keyedDevices glm) (fun v => rfl) rfl (keyedDevices_normal_iff glm)
      (keyedDevices_normal_eq_nil_iff glm)]

lemma normalScene_object (ms : List (String × Value R)) :
    normalScene (.object ms) = some (.object (mapMembers normalSceneMember ms)) := rfl

lemma scenesOf_normal_iff (l : List (Value R)) :
    Agree (l.mapM (sceneOf glm)) ((l.filterMap normalScene).mapM (sceneOf glm)) ↔
      ∀ s ∈ l, SceneWellFormed glm s := by
  induction l with
  | nil => exact iff_of_true ⟨[], rfl, rfl⟩ (by simp)
  | cons d l ih =>
      have hcons : ∀ (a : Except Fail (SceneDocument R)) (b : Except Fail (List _)),
          (do let x ← a; let xs ← b; pure (x :: xs)) = a >>= fun x => b.map (x :: ·) := by
        rintro (_ | _) (_ | _) <;> rfl
      rw [List.forall_mem_cons, List.mapM_cons]
      cases d with
      | object ms =>
          rw [List.filterMap_cons_some (normalScene_object ms), List.mapM_cons, hcons, hcons,
            agree_bind_iff (C := True) (fun x xs x' xs' => by simp), sceneOf_normal_iff, ih,
            and_iff_right trivial]
      | _ => exact iff_of_false (not_agree_error _ _) fun h => by obtain ⟨_, ⟨⟩, _⟩ := h.1

/-- There are no scenes where no element is an object. -/
lemma scenesOf_normal_eq_nil_iff (l : List (Value R)) :
    (l.filterMap normalScene).mapM (sceneOf glm) = .ok [] ↔ ∀ s ∈ l, s.getObject = none := by
  induction l with
  | nil => exact iff_of_true rfl (by simp)
  | cons d l ih =>
      rw [List.forall_mem_cons]
      cases d with
      | object ms =>
          rw [List.filterMap_cons_some (normalScene_object ms), List.mapM_cons]
          refine iff_of_false (fun h => ?_) fun h => by cases h.1
          obtain ⟨scd, -, h⟩ := exists_of_bind_ok h
          obtain ⟨scenes, -, ⟨⟩⟩ := exists_of_bind_ok h
      | _ => exact ih.trans (and_iff_right rfl).symm

lemma messageFields_normal_iff {ms : List (String × Value R)}
    (scenes scenes' : List (SceneDocument R)) :
    { messageFields ms with scenes } =
        { messageFields (mapMembers normalMessageMember ms) with scenes := scenes' } ↔
      MessageFieldsKept ms ∧ scenes = scenes' := by
  have hint : ∀ name ∈ ["msg_type", "operation", "event_destination_port", "err_code",
      "num_records", "start_record"],
      member? getInt (mapMembers normalMessageMember ms) name = typed? getInt ms name :=
    fun name hname => member?_mapMembers (funext fun v => by rw [normalMessageMember, if_pos hname])
  have hstr : ∀ name ∈ ["transaction_id", "encryption_password", "encryption_salt",
      "encryption_key", "encryption_iv", "decryption_password", "decryption_salt",
      "decryption_key", "decryption_iv", "event_destination_host", "err_msg"],
      member? getString (mapMembers normalMessageMember ms) name = typed? getString ms name := by
    intro name hname
    refine member?_mapMembers (funext fun v => ?_)
    rw [normalMessageMember, if_neg (by revert name; decide), if_pos hname]
  have hkept : MessageFieldsKept ms ↔
      (∀ field ∈ [("msg_type", -1), ("operation", opAppend), ("err_code", noError),
        ("num_records", 10), ("start_record", 0)], Says getInt ms field.1 field.2) ∧
      (∀ name ∈ ["transaction_id", "decryption_password", "decryption_salt", "decryption_key",
        "decryption_iv", "event_destination_host", "err_msg"], Says getString ms name "") ∧
      SaysOver getString ms "encryption_key" "encryption_password" "" ∧
      SaysOver getString ms "encryption_iv" "encryption_salt" "" :=
    ⟨fun h => ⟨h.ints, h.strings, h.encryptionKey, h.encryptionSalt⟩,
      fun ⟨h₁, h₂, h₃, h₄⟩ => ⟨h₁, h₂, h₃, h₄⟩⟩
  simp only [messageFields, SceneList.mk.injEq, hint "msg_type" (by simp),
    hint "operation" (by simp), hint "err_code" (by simp), hint "num_records" (by simp),
    hint "start_record" (by simp), hstr "transaction_id" (by simp),
    hstr "encryption_password" (by simp), hstr "encryption_salt" (by simp),
    hstr "encryption_key" (by simp), hstr "encryption_iv" (by simp),
    hstr "decryption_password" (by simp), hstr "decryption_salt" (by simp),
    hstr "decryption_key" (by simp), hstr "decryption_iv" (by simp),
    hstr "event_destination_host" (by simp), hstr "err_msg" (by simp), hkept, Says, SaysOver,
    List.forall_mem_cons, List.not_mem_nil, false_imp_iff, implies_true, and_true, true_and]
  tauto

omit [CommRing R] in
lemma getString_of_ofType_getInt {v v' : Value R} (h : ofType getInt v = some v') :
    v'.getString = none := by
  rw [ofType] at h
  split_ifs at h with hint
  obtain rfl := Option.some.inj h
  cases v <;> first | rfl | cases hint

/-- A document is read, and read as it is without the members and elements that have the
wrong type, exactly if it is well formed. -/
theorem ofDocument_normal_iff (d : Value R) :
    (∃ m, ofDocument glm d = .ok m ∧ ofDocument glm (normal d) = .ok m) ↔ WellFormed glm d := by
  cases d with
  | object ms =>
      have hwell : WellFormed glm (.object ms) ↔
          member? getString ms "event_destination_port" = none ∧ MessageFieldsKept ms ∧
            ListWellFormed (SceneWellFormed glm) (fun s => s.getObject = none) ms "scenes" :=
        ⟨fun h => h ms rfl, by rintro h _ ⟨rfl⟩; exact h⟩
      have hport : member? getString (mapMembers normalMessageMember ms)
          "event_destination_port" = none := by
        rw [member?, lookup_mapMembers]
        rcases hv : ms.findSome? _ with _ | v
        · rfl
        · obtain ⟨member, -, hleft⟩ := List.exists_of_findSome?_eq_some hv
          split_ifs at hleft
          exact getString_of_ofType_getInt hleft
      show Agree (ofDocument glm (.object ms))
        (ofDocument glm (.object (mapMembers normalMessageMember ms))) ↔ _
      rw [hwell, ofDocument_object, ofDocument_object, hport]
      cases member? getString ms "event_destination_port" with
      | some port => exact iff_of_false (not_agree_error _ _) (by rintro ⟨⟨⟩, _⟩)
      | none =>
          rw [and_iff_right rfl, ← agree_elementsOf_iff (List.mapM (sceneOf glm))
            (f := normalMessageMember) (fun v => rfl) rfl (scenesOf_normal_iff glm)
            (scenesOf_normal_eq_nil_iff glm) ms]
          exact agree_map_iff (C := MessageFieldsKept ms)
            (fun scenes scenes' => messageFields_normal_iff scenes scenes') _ _
  | _ => exact iff_of_true ⟨{}, rfl, rfl⟩ (by rintro _ ⟨⟩)

/-- A document that is read, but not as it is without what has the wrong type. -/
def ReadOtherwise (d : Value ℝ) : Prop :=
  ¬ ∃ m, ofDocument Glm.real d = .ok m ∧ ofDocument Glm.real (normal d) = .ok m

/-- A document with one scene. -/
def sceneDocument (ms : List (String × Value ℝ)) : Value ℝ :=
  .object [("scenes", .array [.object ms])]

/-- A scene that is a number, a port that is a string and a fourth coordinate are not
read; a transform that is null is read as a transform, a coordinate behind a string keeps
its place, and a key behind a key that is a number is not read. -/
theorem malformed_documents :
    ofDocument Glm.real (.object [("scenes", .array [.int 1])]) = .error .undefined ∧
    ofDocument Glm.real (.object [("event_destination_port", .string "8080")]) =
      .error .undefined ∧
    ofDocument Glm.real (sceneDocument [("transform",
      .object [("translation", .array [.int 0, .int 0, .int 0, .int 0])])]) =
      .error .undefined ∧
    ReadOtherwise (sceneDocument [("transform", .null)]) ∧
    ReadOtherwise (sceneDocument [("transform",
      .object [("translation", .array [.string "x", .int 1, .int 2])])]) ∧
    ReadOtherwise (sceneDocument [("key", .int 1), ("key", .string "a")]) := by
  refine ⟨rfl, rfl, rfl, ?_, ?_, ?_⟩
  · rintro ⟨m, hm, hnormal⟩
    have hsome : m.scenes.map SceneDocument.sceneTransform = [some Transform.new] := by
      obtain rfl := Except.ok.inj hm
      rfl
    have hnone : m.scenes.map SceneDocument.sceneTransform = [none] := by
      obtain rfl := Except.ok.inj hnormal
      rfl
    rw [hsome] at hnone
    cases hnone
  · rintro ⟨m, hm, hnormal⟩
    have hplaced : m.scenes.map SceneDocument.sceneTransform =
        [some ((Transform.new.translate 1 ((1 : ℤ) : ℝ)).translate 2 ((2 : ℤ) : ℝ))] := by
      obtain rfl := Except.ok.inj hm
      rfl
    have hclosed : m.scenes.map SceneDocument.sceneTransform =
        [some ((Transform.new.translate 0 ((1 : ℤ) : ℝ)).translate 1 ((2 : ℤ) : ℝ))] := by
      obtain rfl := Except.ok.inj hnormal
      rfl
    rw [hplaced] at hclosed
    have htran := congrArg (fun t => t.tran 0) (Option.some.inj (List.cons.inj hclosed).1)
    simp [Transform.translate] at htran
  · rintro ⟨m, hm, hnormal⟩
    have hfirst : m.scenes.map SceneDocument.key = [""] := by
      obtain rfl := Except.ok.inj hm
      rfl
    have htyped : m.scenes.map SceneDocument.key = ["a"] := by
      obtain rfl := Except.ok.inj hnormal
      rfl
    rw [hfirst] at htyped
    exact absurd htyped (by decide)

end CrazyIvan
