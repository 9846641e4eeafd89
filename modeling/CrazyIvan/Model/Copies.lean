import CrazyIvan.Model.Scene
import CrazyIvan.Model.TransformLaws

/-!
The copy constructors of user devices and scenes.

* `UserDevice.Same`, `SceneDocument.Same`: what a copy is to have in common with the
  original.
* `UserDevice.copyConstruct`, `SceneDocument.copyConstruct`: the constructors. A scene
  copies its devices by a loop of its own, which knows only of keys and transforms.
* `same_copyConstruct_iff`: a copied device is always the same, a copied scene exactly
  when it is `Plain`.
-/

namespace CrazyIvan

variable {R : Type} [CommRing R] (glm : Glm R)

/-! ### The same devices and scenes -/

/-- The same presence of a transform, and the same transform. -/
def SameTransform : Option (Transform R) → Option (Transform R) → Prop := Option.Rel Transform.Same

/-- The same device. -/
structure UserDevice.Same (dev dev' : UserDevice R) : Prop where
  key : dev'.key = dev.key
  connectionString : dev'.connectionString = dev.connectionString
  hostname : dev'.hostname = dev.hostname
  port : dev'.port = dev.port
  trans : SameTransform dev.trans dev'.trans

/-- The same scene, but for its user. -/
structure SceneDocument.Same (s s' : SceneDocument R) : Prop where
  key : s'.key = s.key
  name : s'.name = s.name
  description : s'.description = s.description
  thumbnail : s'.thumbnail = s.thumbnail
  region : s'.region = s.region
  latitude : s'.latitude = s.latitude
  longitude : s'.longitude = s.longitude
  distance : s'.distance = s.distance
  active : s'.active = s.active
  isPublic : s'.isPublic = s.isPublic
  assets : s'.assets = s.assets
  tags : s'.tags = s.tags
  devices : List.Forall₂ UserDevice.Same s.devices s'.devices
  sceneTransform : SameTransform s.sceneTransform s'.sceneTransform

variable {glm}

lemma sameTransform_copy (hglm : glm.Exact) {t : Option (Transform R)}
    (ht : ∀ u ∈ t, u.Built glm) : SameTransform t (t.map (Transform.copy glm)) := by
  cases t with
  | none => exact .none
  | some u => exact .some ((ht u rfl).same_copy hglm)

variable (glm)

/-! ### The constructors -/

/-- The loop that copies a transform of a scene. -/
def copiedTransform (t : Transform R) : Transform R :=
  ([0, 1, 2] : List (Fin 3)).foldl
    (fun u i => (u.translate i (t.translation i)).rotate glm i (t.rotation glm i)) Transform.new

namespace UserDevice

/-- The loop that copies the transform of a device. -/
def copiedTransform (t : Transform R) : Transform R :=
  ([0, 1, 2] : List (Fin 3)).foldl (fun u i =>
    let u := if t.hasTranslation then u.translate i (t.translation i) else u
    if t.hasRotation then u.rotate glm i (t.rotation glm i) else u) Transform.new

def copyConstruct (ud : UserDevice R) : UserDevice R where
  key := ud.key
  port := ud.port
  connectionString := ud.connectionString
  hostname := ud.hostname
  trans := ud.trans.map (copiedTransform glm)

end UserDevice

namespace SceneDocument

/-- A device as the loop over the devices copies it: a key and a transform, also where
there was none. -/
def copiedDevice (ud : UserDevice R) : UserDevice R where
  key := ud.key
  trans := some (([0, 1, 2] : List (Fin 3)).foldl (fun u i =>
    match ud.trans with
    | some t => (u.translate i (t.translation i)).rotate glm i (t.rotation glm i)
    | none => u) Transform.new)

def copyConstruct (sd : SceneDocument R) : SceneDocument R :=
  let scn : SceneDocument R := {
    key := sd.key
    name := sd.name
    description := sd.description
    user := sd.user
    thumbnail := sd.thumbnail
    region := sd.region
    latitude := sd.latitude
    longitude := sd.longitude
    distance := sd.distance
    active := sd.active
    isPublic := sd.isPublic
    sceneTransform := none }
  let scn := sd.assets.foldl addAsset scn
  let scn := sd.tags.foldl addTag scn
  let scn := match sd.sceneTransform with
    | some t => { scn with sceneTransform := some (copiedTransform glm t) }
    | none => scn
  sd.devices.foldl (fun scn ud => scn.addDevice (copiedDevice glm ud)) scn

lemma foldl_addDevice (f : UserDevice R → UserDevice R) (l : List (UserDevice R))
    (s : SceneDocument R) :
    l.foldl (fun s d => s.addDevice (f d)) s = { s with devices := s.devices ++ l.map f } := by
  induction l generalizing s with
  | nil => rw [List.foldl_nil, List.map_nil, List.append_nil]
  | cons d l ih =>
      rw [List.foldl_cons, ih, addDevice, List.append_assoc, List.singleton_append, List.map_cons]

/-- Everything but the devices and the transform is the same. -/
lemma copyConstruct_eq (sd : SceneDocument R) :
    sd.copyConstruct glm = { sd with
      sceneTransform := sd.sceneTransform.map (copiedTransform glm)
      devices := sd.devices.map (copiedDevice glm) } := by
  rw [copyConstruct, foldl_addAsset, foldl_addTag, foldl_addDevice]
  cases sd.sceneTransform <;> rfl

end SceneDocument

/-! ### Copied transforms -/

variable {glm}

/-- The copy of a device leaves out what the flags say is not there. -/
lemma copiedTransform_eq_copy (t : Transform R) :
    UserDevice.copiedTransform glm t = t.copy glm := by
  rw [UserDevice.copiedTransform, Transform.copy]
  cases t.hasTranslation <;> cases t.hasRotation <;> rfl

/-- A scene copies a transform axis by axis, whatever its flags. -/
lemma copiedTransform_eq_reread (t : Transform R) : copiedTransform glm t = t.reread glm := rfl

/-- That sets both flags. -/
lemma same_copiedTransform_iff (hglm : glm.Exact) {t : Transform R} (ht : t.Built glm) :
    t.Same (copiedTransform glm t) ↔ t.hasTranslation = true ∧ t.hasRotation = true := by
  rw [copiedTransform_eq_reread]
  constructor
  · intro h
    exact ⟨h.hasTranslation.symm, h.hasRotation.symm⟩
  · rintro ⟨htran, hrot⟩
    exact ⟨htran.symm, hrot.symm, tran_reread glm t, transform_reread hglm ht⟩

lemma copiedDevice_eq (ud : UserDevice R) : SceneDocument.copiedDevice glm ud =
    { key := ud.key
      trans := some (ud.trans.elim Transform.new (copiedTransform glm)) } := by
  rw [SceneDocument.copiedDevice]
  cases ud.trans <;> rfl

/-! ### Copies -/

/-- A transform with both flags. -/
def Transform.Full (t : Transform R) : Prop := t.hasTranslation = true ∧ t.hasRotation = true

/-- A device with a key and a transform only. -/
structure UserDevice.Plain (ud : UserDevice R) : Prop where
  connectionString : ud.connectionString = ""
  hostname : ud.hostname = ""
  port : ud.port = 999999
  trans : ∃ t ∈ ud.trans, t.Full

/-- A scene of such devices; the transforms have both flags. -/
structure SceneDocument.Plain (sd : SceneDocument R) : Prop where
  sceneTransform : ∀ t ∈ sd.sceneTransform, t.Full
  devices : ∀ ud ∈ sd.devices, ud.Plain

variable (glm) in
/-- The transforms of the scene and of its devices are built by the functions for
it. -/
structure SceneDocument.Built (sd : SceneDocument R) : Prop where
  sceneTransform : ∀ t ∈ sd.sceneTransform, t.Built glm
  devices : ∀ ud ∈ sd.devices, ∀ t ∈ ud.trans, t.Built glm

section Exact

variable (hglm : glm.Exact)
include hglm

lemma UserDevice.same_copyConstruct {ud : UserDevice R} (hud : ∀ t ∈ ud.trans, t.Built glm) :
    ud.Same (ud.copyConstruct glm) where
  key := rfl
  connectionString := rfl
  hostname := rfl
  port := rfl
  trans := by
    rw [copyConstruct, funext copiedTransform_eq_copy]
    exact sameTransform_copy hglm hud

lemma sameTransform_copied_iff {t : Option (Transform R)} (ht : ∀ u ∈ t, u.Built glm) :
    SameTransform t (t.map (copiedTransform glm)) ↔ ∀ u ∈ t, u.Full := by
  cases t with
  | none => exact iff_of_true .none (by simp)
  | some u =>
      rw [Option.map_some, SameTransform, Option.rel_some_some,
        same_copiedTransform_iff hglm (ht u rfl)]
      simp [Transform.Full]

lemma same_copiedDevice_iff {ud : UserDevice R} (hud : ∀ t ∈ ud.trans, t.Built glm) :
    ud.Same (SceneDocument.copiedDevice glm ud) ↔ ud.Plain := by
  rw [copiedDevice_eq]
  cases htrans : ud.trans with
  | none =>
      refine iff_of_false (fun h => ?_) fun h => ?_
      · have hrel := h.trans
        rw [htrans] at hrel
        cases hrel
      · obtain ⟨t, ht, -⟩ := h.trans
        rw [htrans] at ht
        cases ht
  | some t =>
      have hsame := same_copiedTransform_iff hglm (hud t htrans)
      constructor
      · intro h
        have hrel := h.trans
        rw [htrans] at hrel
        cases hrel with
        | some h' =>
          exact ⟨h.connectionString.symm, h.hostname.symm, h.port.symm, t, htrans, hsame.mp h'⟩
      · intro h
        obtain ⟨t', ht', hfull⟩ := h.trans
        obtain rfl := Option.some.inj (htrans.symm.trans ht')
        refine ⟨rfl, h.connectionString.symm, h.hostname.symm, h.port.symm, ?_⟩
        rw [htrans]
        exact .some (hsame.mpr hfull)

/-- A scene is the same as its copy exactly when it is plain. -/
lemma SceneDocument.same_iff_plain {sd : SceneDocument R} (hsd : sd.Built glm) :
    sd.Same (sd.copyConstruct glm) ↔ sd.Plain := by
  have htrans := sameTransform_copied_iff hglm hsd.sceneTransform
  have hdevices : List.Forall₂ UserDevice.Same sd.devices (sd.devices.map (copiedDevice glm)) ↔
      ∀ ud ∈ sd.devices, ud.Plain := by
    rw [List.forall₂_map_right_iff, List.forall₂_same]
    exact forall₂_congr fun ud hud => same_copiedDevice_iff hglm (hsd.devices ud hud)
  rw [copyConstruct_eq]
  constructor
  · intro h
    exact ⟨htrans.mp h.sceneTransform, hdevices.mp h.devices⟩
  · intro h
    exact ⟨rfl, rfl, rfl, rfl, rfl, rfl, rfl, rfl, rfl, rfl, rfl, rfl, hdevices.mpr h.devices,
      htrans.mpr h.sceneTransform⟩

/-- The copy of a device agrees with it in everything, the copy of a scene, which has
the same user, exactly when the scene is plain. -/
theorem same_copyConstruct_iff :
    (∀ ud : UserDevice R, (∀ t ∈ ud.trans, t.Built glm) → ud.Same (ud.copyConstruct glm)) ∧
      ∀ sd : SceneDocument R, sd.Built glm →
        ((sd.Same (sd.copyConstruct glm) ∧ (sd.copyConstruct glm).user = sd.user) ↔ sd.Plain) := by
  refine ⟨fun ud hud => ud.same_copyConstruct hglm hud, fun sd hsd => ?_⟩
  have huser : (sd.copyConstruct glm).user = sd.user := by rw [sd.copyConstruct_eq]
  rw [and_iff_left huser]
  exact SceneDocument.same_iff_plain hglm hsd

end Exact

/-- A device that has been moved but not turned. -/
noncomputable def hostedDevice : UserDevice ℝ where
  key := "ud"
  hostname := "10.0.0.1"
  port := 5000
  trans := some (Transform.new.translate 0 1)

lemma built_hostedDevice : ∀ t ∈ hostedDevice.trans, t.Built Glm.real := by
  intro t ht
  obtain rfl := Option.some.inj ht
  exact .translate 0 1 .new

lemma built_movedScene :
    ({ key := "lobby", devices := [hostedDevice] } : SceneDocument ℝ).Built Glm.real where
  sceneTransform := nofun
  devices ud hud := by
    obtain rfl := List.mem_singleton.mp hud
    exact built_hostedDevice

/-- The device, and a scene with it. -/
theorem same_copyConstruct_moved :
    hostedDevice.Same (hostedDevice.copyConstruct Glm.real) ∧
      let sd : SceneDocument ℝ := { key := "lobby", devices := [hostedDevice] }
      ((sd.Same (sd.copyConstruct Glm.real) ∧ (sd.copyConstruct Glm.real).user = sd.user) ↔
        sd.Plain) :=
  ⟨(same_copyConstruct_iff Glm.real_exact).1 hostedDevice built_hostedDevice,
    (same_copyConstruct_iff Glm.real_exact).2 _ built_movedScene⟩

/-- The copy of that scene has lost the host of the device. -/
theorem not_all_copies_same :
    ¬ ∀ sd : SceneDocument ℝ, sd.Built Glm.real →
      sd.Same (sd.copyConstruct Glm.real) ∧ (sd.copyConstruct Glm.real).user = sd.user := by
  intro h
  obtain ⟨hsame, -⟩ := h _ built_movedScene
  have hdevices := hsame.devices
  rw [SceneDocument.copyConstruct_eq] at hdevices
  cases hdevices with
  | cons hdevice _ => exact absurd hdevice.hostname (by simp [copiedDevice_eq, hostedDevice])

end CrazyIvan
