import CrazyIvan.Model.Glm

/-!
The `Transform` of the source: a translation vector and a rotation matrix, with
the operations that build, compose and invert transforms.

* `Transform.translate`, `rotate`, `invert`, `addTransform`: the operations.
* `Transform.Built`: the transforms these operations make; their matrix is a
  rotation (`Built.isRotation`).
* `Transform.apply`: what a transform does to an element.
* `foldl_addTransform`: a chain of transforms, added up.
* `Transform.reread`: a transform put together again from what its getters return.
-/

namespace CrazyIvan

open Geometry

variable {R : Type} [CommRing R]

/-- A translation and a rotation between two coordinate systems. The vector
`rot` is a cache of the angles of `transform`. -/
structure Transform (R : Type) [CommRing R] where
  transform : Mat4 R
  tran : Fin 3 → R
  rot : Fin 3 → R
  tranFlag : Bool
  rotFlag : Bool
  vectorsNeedUpdating : Bool

namespace Transform

/-- A transform with default values. -/
def new : Transform R := ⟨1, 0, 0, false, false, true⟩

def getTransformVector (t : Transform R) : Mat4 R := t.transform

def hasTranslation (t : Transform R) : Bool := t.tranFlag

def hasRotation (t : Transform R) : Bool := t.rotFlag

def translate (t : Transform R) (index : Fin 3) (amt : R) : Transform R :=
  { t with tran := Function.update t.tran index amt, tranFlag := true }

/-- The translation along an axis; the source refreshes the cache on the way,
which `updateVectors` shows to be without effect on what is read. -/
def translation (t : Transform R) (index : Fin 3) : R := t.tran index

variable (glm : Glm R)

/-- Pull the angles out of the matrix. -/
def updateVectors (t : Transform R) : Transform R :=
  { t with rot := glm.extractEulerAngleXYZ t.transform, vectorsNeedUpdating := false }

/-- The rotation about an axis, from the cache when it is up to date. -/
def rotation (t : Transform R) (index : Fin 3) : R :=
  if t.vectorsNeedUpdating then (t.updateVectors glm).rot index else t.rot index

def rotate (t : Transform R) (index : Fin 3) (amt : R) : Transform R :=
  { t with
    transform := t.transform * glm.rotationMatrix index amt
    vectorsNeedUpdating := true
    rotFlag := true }

/-- Invert this transform. -/
def invert (t : Transform R) : Transform R :=
  { t with
    tran := fun i => -1 * t.tran i
    vectorsNeedUpdating := true
    transform := glm.inverse t.transform }

/-- Add a transform: the translations add up, the other matrix is multiplied on
the left. -/
def addTransform (t u : Transform R) (inverted : Bool) : Transform R where
  tran i := if inverted then t.tran i - u.translation i else t.tran i + u.translation i
  transform :=
    if inverted then glm.inverse u.getTransformVector * t.transform
    else u.getTransformVector * t.transform
  rot := t.rot
  tranFlag := u.hasTranslation || t.tranFlag
  rotFlag := u.hasRotation || t.rotFlag
  vectorsNeedUpdating := true

/-! ### Reading the operations -/

@[simp] lemma tran_new : (new : Transform R).tran = 0 := rfl

@[simp] lemma transform_new : (new : Transform R).transform = 1 := rfl

@[simp] lemma transform_translate (t : Transform R) (i : Fin 3) (amt : R) :
    (t.translate i amt).transform = t.transform := rfl

@[simp] lemma tran_rotate (t : Transform R) (i : Fin 3) (amt : R) :
    (t.rotate glm i amt).tran = t.tran := rfl

@[simp] lemma transform_rotate (t : Transform R) (i : Fin 3) (amt : R) :
    (t.rotate glm i amt).transform = t.transform * glm.rotationMatrix i amt := rfl

@[simp] lemma tran_invert (t : Transform R) : (t.invert glm).tran = -t.tran := by
  funext i
  simp [invert]

@[simp] lemma transform_invert (t : Transform R) :
    (t.invert glm).transform = glm.inverse t.transform := rfl

@[simp] lemma tran_addTransform (t u : Transform R) :
    (t.addTransform glm u false).tran = t.tran + u.tran := rfl

@[simp] lemma transform_addTransform (t u : Transform R) :
    (t.addTransform glm u false).transform = u.transform * t.transform := rfl

/-- A refreshed cache reads the same. -/
lemma rotation_updateVectors {t : Transform R} (h : t.vectorsNeedUpdating = true) :
    (t.updateVectors glm).rotation glm = t.rotation glm := by
  funext i
  simp [rotation, updateVectors, h]

/-! ### The transforms of the program -/

/-- The transforms made by the operations. -/
inductive Built : Transform R → Prop
  | new : Built new
  | translate {t : Transform R} (i : Fin 3) (amt : R) : Built t → Built (t.translate i amt)
  | rotate {t : Transform R} (i : Fin 3) (amt : R) : Built t → Built (t.rotate glm i amt)
  | invert {t : Transform R} : Built t → Built (t.invert glm)
  | addTransform {t u : Transform R} (inverted : Bool) :
      Built t → Built u → Built (t.addTransform glm u inverted)

variable {glm}

/-- The matrix of a transform the operations make is a rotation. -/
lemma Built.isRotation (hglm : glm.Exact) {t : Transform R} (ht : Built glm t) :
    IsRotation t.transform := by
  induction ht with
  | new => exact IsRotation.one
  | translate i amt _ ih => exact ih
  | rotate i amt _ ih => exact ih.mul (hglm.rotationMatrix_isRotation i amt)
  | invert _ ih => exact hglm.inverse_isRotation ih
  | @addTransform t u inverted _ _ iht ihu =>
      cases inverted with
      | false => exact ihu.mul iht
      | true => exact (hglm.inverse_isRotation ihu).mul iht

/-- Its angles are never stale. -/
lemma Built.vectorsNeedUpdating {t : Transform R} (ht : Built glm t) :
    t.vectorsNeedUpdating = true := by
  induction ht with
  | new => rfl
  | translate i amt _ ih => exact ih
  | rotate i amt _ _ => rfl
  | invert _ _ => rfl
  | addTransform inverted _ _ _ _ => rfl

lemma Built.rotation_eq {t : Transform R} (ht : Built glm t) :
    t.rotation glm = glm.extractEulerAngleXYZ t.transform := by
  funext i
  simp [rotation, ht.vectorsNeedUpdating, updateVectors]

/-! ### What a transform does to an element -/

/-- An element `s` is mapped to `Tr * s * Rot`. -/
def apply (t : Transform R) (s : Mat4 R) : Mat4 R :=
  translationMatrix t.tran * s * t.transform

/-- Adding up a chain: the translations add up, the rotations come in the
opposite order. -/
lemma foldl_addTransform (glm : Glm R) (ts : List (Transform R)) (t₀ : Transform R) :
    (ts.foldl (fun acc t => acc.addTransform glm t false) t₀).tran
        = t₀.tran + (ts.map Transform.tran).sum ∧
      (ts.foldl (fun acc t => acc.addTransform glm t false) t₀).transform
        = (ts.map Transform.transform).reverse.prod * t₀.transform := by
  induction ts generalizing t₀ with
  | nil => simp
  | cons t ts ih =>
      obtain ⟨htran, hrot⟩ := ih (t₀.addTransform glm t false)
      rw [List.foldl_cons, htran, hrot]
      simp [add_assoc, mul_assoc]

end Transform

/-! ### From the values of the getters -/

/-- The transform read back from a stored one: translated and rotated axis by
axis. -/
def Transform.reread (glm : Glm R) (t : Transform R) : Transform R :=
  (((((Transform.new.translate 0 (t.translation 0)).translate 1 (t.translation 1)).translate 2
    (t.translation 2)).rotate glm 0 (t.rotation glm 0)).rotate glm 1 (t.rotation glm 1)).rotate
    glm 2 (t.rotation glm 2)

lemma tran_reread (glm : Glm R) (t : Transform R) : (t.reread glm).tran = t.tran := by
  funext i
  fin_cases i <;> rfl

lemma built_reread (glm : Glm R) (t : Transform R) : (t.reread glm).Built glm :=
  .rotate 2 _ (.rotate 1 _ (.rotate 0 _ (.translate 2 _ (.translate 1 _ (.translate 0 _ .new)))))

/-- The stored angles give the matrix back. -/
lemma transform_reread {glm : Glm R} (hglm : glm.Exact) {t : Transform R}
    (ht : t.Built glm) : (t.reread glm).transform = t.transform := by
  have h := hglm.extract t.transform (ht.isRotation hglm)
  simpa [Transform.reread, ht.rotation_eq] using h

end CrazyIvan
