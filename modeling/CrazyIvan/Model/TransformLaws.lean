import CrazyIvan.Model.Transform

/-!
The laws of the operations on transforms.

* `Transform.Same`, `Transform.Alike`: transforms that the getters do not tell apart.
* `Transform.copy`: a transform put together again where its flags are set, the same
  up to its cache (`Transform.Built.same_copy`).
* `Calls`, `Calls.run`: the calls that build a transform, and the transform;
  `Calls.inverted`: what `glm::inverse` is applied to on the way.
* `built_iff_exists_calls`: these are the transforms that are `Built`.
* `Calls.laws`: inverting and adding up, on all transforms that calls build.
-/

namespace CrazyIvan

open Geometry

variable {R : Type} [CommRing R] (glm : Glm R)

/-! ### What the getters return -/

namespace Transform

/-- The transform that is read from a written one. -/
def copy (t : Transform R) : Transform R :=
  let u := if t.hasTranslation then
    ((new.translate 0 (t.translation 0)).translate 1 (t.translation 1)).translate 2
      (t.translation 2)
    else new
  if t.hasRotation then
    ((u.rotate glm 0 (t.rotation glm 0)).rotate glm 1 (t.rotation glm 1)).rotate glm 2
      (t.rotation glm 2)
  else u

/-- The same flags, translation and rotation matrix. -/
structure Same (t u : Transform R) : Prop where
  hasTranslation : u.hasTranslation = t.hasTranslation
  hasRotation : u.hasRotation = t.hasRotation
  translation : u.translation = t.translation
  transform : u.getTransformVector = t.getTransformVector

variable {glm}

/-- Without a flag there is no translation. -/
lemma Built.tran_eq_zero {t : Transform R} (ht : Built glm t) (h : t.tranFlag = false) :
    t.tran = 0 := by
  induction ht with
  | new => rfl
  | translate i amt _ _ => exact absurd h (by simp [Transform.translate])
  | rotate i amt _ ih => exact ih h
  | invert _ ih => rw [tran_invert, ih h, neg_zero]
  | @addTransform t u inverted _ _ iht ihu =>
      obtain ⟨hu, ht⟩ : u.tranFlag = false ∧ t.tranFlag = false := by
        simpa [Transform.addTransform, hasTranslation] using h
      funext i
      simp [Transform.addTransform, translation, iht ht, ihu hu]

/-- Without a flag there is no rotation. -/
lemma Built.transform_eq_one (hglm : glm.Exact) {t : Transform R} (ht : Built glm t)
    (h : t.rotFlag = false) : t.transform = 1 := by
  have hinv : glm.inverse 1 = 1 := hglm.inverse_eq Geometry.IsRotation.one (mul_one 1)
  induction ht with
  | new => rfl
  | translate i amt _ ih => exact ih h
  | rotate i amt _ _ => exact absurd h (by simp [Transform.rotate])
  | invert _ ih => rw [transform_invert, ih h, hinv]
  | @addTransform t u inverted _ _ iht ihu =>
      obtain ⟨hu, ht⟩ : u.rotFlag = false ∧ t.rotFlag = false := by
        simpa [Transform.addTransform, hasRotation] using h
      simp [Transform.addTransform, getTransformVector, iht ht, ihu hu, hinv]

lemma tran_copy (t : Transform R) :
    (t.copy glm).tran = if t.hasTranslation then t.tran else 0 := by
  funext i
  cases h : t.hasTranslation <;> cases h' : t.hasRotation <;>
    fin_cases i <;> simp [copy, h, h', translate, translation, Function.update]

lemma transform_copy (t : Transform R) :
    (t.copy glm).transform =
      if t.hasRotation then
        glm.rotationMatrix 0 (t.rotation glm 0) * glm.rotationMatrix 1 (t.rotation glm 1) *
          glm.rotationMatrix 2 (t.rotation glm 2)
      else 1 := by
  cases h : t.hasTranslation <;> cases h' : t.hasRotation <;> simp [copy, h, h']

lemma hasTranslation_copy (t : Transform R) :
    (t.copy glm).hasTranslation = t.hasTranslation := by
  cases h : t.hasTranslation <;> cases h' : t.hasRotation <;> simp [copy, h, h'] <;> rfl

lemma hasRotation_copy (t : Transform R) : (t.copy glm).hasRotation = t.hasRotation := by
  cases h : t.hasTranslation <;> cases h' : t.hasRotation <;> simp [copy, h, h'] <;> rfl

/-- The angles are written in the order in which their product is the matrix. -/
lemma Built.same_copy (hglm : glm.Exact) {t : Transform R} (ht : Built glm t) :
    t.Same (t.copy glm) where
  hasTranslation := hasTranslation_copy t
  hasRotation := hasRotation_copy t
  translation := by
    have htran : (t.copy glm).tran = t.tran := by
      rw [tran_copy]
      split
      · rfl
      · next h => exact (ht.tran_eq_zero (by simpa [hasTranslation] using h)).symm
    exact htran
  transform := by
    have hmatrix : (t.copy glm).transform = t.transform := by
      rw [transform_copy, ht.rotation_eq]
      split
      · exact hglm.extract t.transform (ht.isRotation hglm)
      · next h => exact (ht.transform_eq_one hglm (by simpa [hasRotation] using h)).symm
    exact hmatrix

variable (glm) in
/-- The getters return the same for both, the angles too. -/
structure Alike (t u : Transform R) : Prop extends Same t u where
  rotation : u.rotation glm = t.rotation glm

/-- The angles of transforms that are built are those of their matrices. -/
lemma Built.alike {t u : Transform R} (ht : t.Built glm) (hu : u.Built glm) (h : t.Same u) :
    t.Alike glm u where
  toSame := h
  rotation := by
    have htransform : u.transform = t.transform := h.transform
    rw [ht.rotation_eq, hu.rotation_eq, htransform]

end Transform

/-! ### Calls -/

/-- The calls that build a transform, the last one outermost. The transform that is
added has been built by calls of its own. -/
inductive Calls (R : Type) where
  | new
  | translate (calls : Calls R) (index : Fin 3) (amt : R)
  | rotate (calls : Calls R) (index : Fin 3) (amt : R)
  | invert (calls : Calls R)
  | addTransform (calls t : Calls R) (inverted : Bool)

namespace Calls

/-- The transform that is built. -/
def run : Calls R → Transform R
  | new => Transform.new
  | translate calls index amt => calls.run.translate index amt
  | rotate calls index amt => calls.run.rotate glm index amt
  | invert calls => calls.run.invert glm
  | addTransform calls t inverted => calls.run.addTransform glm t.run inverted

/-- The matrices that `glm::inverse` is applied to. -/
def inverted : Calls R → List (Mat4 R)
  | new => []
  | translate calls _ _ => calls.inverted
  | rotate calls _ _ => calls.inverted
  | invert calls => calls.inverted ++ [(calls.run glm).transform]
  | addTransform calls t inverted =>
      calls.inverted ++ t.inverted ++
        if inverted then [(t.run glm).getTransformVector] else []

variable {glm}

lemma built_run (c : Calls R) : (c.run glm).Built glm := by
  induction c with
  | new => exact .new
  | translate calls index amt ih => exact .translate index amt ih
  | rotate calls index amt ih => exact .rotate index amt ih
  | invert calls ih => exact .invert ih
  | addTransform calls t inverted ih iht => exact .addTransform inverted ih iht

/-- The transforms that are built are those that calls build. -/
theorem built_iff_exists_calls (t : Transform R) : t.Built glm ↔ ∃ c : Calls R, c.run glm = t := by
  constructor
  · intro ht
    induction ht with
    | new => exact ⟨new, rfl⟩
    | translate i amt _ ih =>
        obtain ⟨c, rfl⟩ := ih
        exact ⟨c.translate i amt, rfl⟩
    | rotate i amt _ ih =>
        obtain ⟨c, rfl⟩ := ih
        exact ⟨c.rotate i amt, rfl⟩
    | invert _ ih =>
        obtain ⟨c, rfl⟩ := ih
        exact ⟨c.invert, rfl⟩
    | addTransform inverted _ _ iht ihu =>
        obtain ⟨c, rfl⟩ := iht
        obtain ⟨d, rfl⟩ := ihu
        exact ⟨c.addTransform d inverted, rfl⟩
  · rintro ⟨c, rfl⟩
    exact c.built_run

/-! ### The laws -/

section Laws

variable (hglm : glm.Exact)
include hglm

lemma isRotation_run (c : Calls R) : IsRotation (c.run glm).transform :=
  c.built_run.isRotation hglm

/-- What is inverted on the way is invertible. The induction is on the calls. -/
lemma isUnit_of_mem_inverted (c : Calls R) : ∀ M ∈ c.inverted glm, IsUnit M := by
  induction c with
  | new => exact nofun
  | translate calls index amt ih => exact ih
  | rotate calls index amt ih => exact ih
  | invert calls ih =>
      intro M hM
      rcases List.mem_append.mp hM with hM | hM
      · exact ih M hM
      · obtain rfl := List.mem_singleton.mp hM
        exact (isRotation_run hglm calls).isUnit
  | addTransform calls t inverted ih iht =>
      intro M hM
      rcases List.mem_append.mp hM with hM | hM
      · exact (List.mem_append.mp hM).elim (ih M) (iht M)
      · cases inverted with
        | false => cases hM
        | true =>
            obtain rfl := List.mem_singleton.mp hM
            exact (isRotation_run hglm t).isUnit

/-- Inverting twice. -/
lemma alike_invert_invert (a : Calls R) : (a.invert.invert.run glm).Alike glm (a.run glm) := by
  have htran : (a.run glm).tran = (a.invert.invert.run glm).tran := by
    simp only [run, Transform.tran_invert, neg_neg]
  exact a.invert.invert.built_run.alike a.built_run ⟨rfl, rfl, htran,
    (hglm.inverse_inverse (isRotation_run hglm a)).symm⟩

/-- Adding a transform and taking it off again. -/
lemma addTransform_addTransform (a t : Calls R) :
    (((a.addTransform t false).addTransform t true).run glm).tran = (a.run glm).tran ∧
      (((a.addTransform t false).addTransform t true).run glm).transform =
        (a.run glm).transform := by
  constructor
  · funext i
    exact add_sub_cancel_right ((a.run glm).tran i) ((t.run glm).tran i)
  · show glm.inverse (t.run glm).transform * ((t.run glm).transform * (a.run glm).transform) = _
    rw [← mul_assoc, hglm.inverse_mul _ (isRotation_run hglm t).isUnit, one_mul]

omit hglm in
/-- Taking a transform off is adding its inverse. -/
lemma alike_addTransform_true (a t : Calls R) :
    ((a.addTransform t true).run glm).Alike glm ((a.addTransform t.invert false).run glm) := by
  have htran : ((a.addTransform t.invert false).run glm).tran =
      ((a.addTransform t true).run glm).tran := by
    funext i
    show (a.run glm).tran i + -1 * (t.run glm).tran i = (a.run glm).tran i - (t.run glm).tran i
    rw [neg_one_mul, sub_eq_add_neg]
  exact (a.addTransform t true).built_run.alike (a.addTransform t.invert false).built_run
    ⟨rfl, rfl, htran, rfl⟩

/-- The inverse of a sum is that of the inverses, the other way round. -/
lemma alike_invert_addTransform (a t : Calls R) :
    ((a.addTransform t false).invert.run glm).Alike glm
      ((t.invert.addTransform a.invert false).run glm) := by
  have htran : ((t.invert.addTransform a.invert false).run glm).tran =
      ((a.addTransform t false).invert.run glm).tran := by
    simp only [run, Transform.tran_invert, Transform.tran_addTransform, neg_add_rev]
  exact (a.addTransform t false).invert.built_run.alike
    (t.invert.addTransform a.invert false).built_run
    ⟨Bool.or_comm _ _, Bool.or_comm _ _, htran,
      (hglm.inverse_mul_rev (isRotation_run hglm t) (isRotation_run hglm a)).symm⟩

/-- The laws, for all transforms that calls build; and no call inverts a singular
matrix. -/
theorem laws (a t : Calls R) :
    (a.invert.invert.run glm).Alike glm (a.run glm) ∧
    ((((a.addTransform t false).addTransform t true).run glm).tran = (a.run glm).tran ∧
      (((a.addTransform t false).addTransform t true).run glm).transform =
        (a.run glm).transform) ∧
    ((a.addTransform t true).run glm).Alike glm ((a.addTransform t.invert false).run glm) ∧
    ((a.addTransform t false).invert.run glm).Alike glm
      ((t.invert.addTransform a.invert false).run glm) ∧
    ∀ c : Calls R, ∀ M ∈ c.inverted glm, IsUnit M :=
  ⟨alike_invert_invert hglm a, addTransform_addTransform hglm a t, alike_addTransform_true a t,
    alike_invert_addTransform hglm a t, isUnit_of_mem_inverted hglm⟩

end Laws

/-- Turns about different axes, which do not commute. -/
theorem laws_turns :
    let a : Calls ℝ := (Calls.new.rotate 0 1).translate 0 2
    let t : Calls ℝ := Calls.new.rotate 1 1
    (a.invert.invert.run Glm.real).Alike Glm.real (a.run Glm.real) ∧
    ((((a.addTransform t false).addTransform t true).run Glm.real).tran = (a.run Glm.real).tran ∧
      (((a.addTransform t false).addTransform t true).run Glm.real).transform =
        (a.run Glm.real).transform) ∧
    ((a.addTransform t true).run Glm.real).Alike Glm.real
      ((a.addTransform t.invert false).run Glm.real) ∧
    ((a.addTransform t false).invert.run Glm.real).Alike Glm.real
      ((t.invert.addTransform a.invert false).run Glm.real) ∧
    ∀ c : Calls ℝ, ∀ M ∈ c.inverted Glm.real, IsUnit M :=
  laws Glm.real_exact _ _

end Calls

end CrazyIvan
