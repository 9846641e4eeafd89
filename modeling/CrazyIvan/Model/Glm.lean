import CrazyIvan.Geometry.Euler

/-!
The functions of the glm library that transforms are computed with, in exact
arithmetic.

* `Glm`: the functions, over any scalars.
* `Glm.Exact`: what their documentation promises of them.
* `Glm.real`: glm's own formulas over the reals, which keep that promise
  (`Glm.real_exact`).
-/

namespace CrazyIvan

open Geometry

/-- The glm functions behind a transform. The angles of `eulerAngleYXZ` are yaw,
pitch and roll; `extractEulerAngleXYZ` returns its three out parameters. -/
structure Glm (R : Type) where
  eulerAngleYXZ : R → R → R → Mat4 R
  inverse : Mat4 R → Mat4 R
  extractEulerAngleXYZ : Mat4 R → Fin 3 → R

variable {R : Type} [CommRing R]

/-- The rotation matrix `Transform::rotate` builds for an axis. -/
def Glm.rotationMatrix (glm : Glm R) (index : Fin 3) (amt : R) : Mat4 R :=
  match index with
  | 0 => glm.eulerAngleYXZ 0 amt 0
  | 1 => glm.eulerAngleYXZ amt 0 0
  | 2 => glm.eulerAngleYXZ 0 0 amt

/-- Angles give rotations, none for no angle; `inverse` inverts what can be
inverted; the extracted angles give a rotation back as the product about X, Y
and Z. -/
structure Glm.Exact (glm : Glm R) : Prop where
  euler_isRotation : ∀ yaw pitch roll, IsRotation (glm.eulerAngleYXZ yaw pitch roll)
  euler_zero : glm.eulerAngleYXZ 0 0 0 = 1
  inverse_mul : ∀ M : Mat4 R, IsUnit M → glm.inverse M * M = 1
  extract : ∀ M : Mat4 R, IsRotation M →
    glm.rotationMatrix 0 (glm.extractEulerAngleXYZ M 0) *
      glm.rotationMatrix 1 (glm.extractEulerAngleXYZ M 1) *
      glm.rotationMatrix 2 (glm.extractEulerAngleXYZ M 2) = M

namespace Glm.Exact

variable {glm : Glm R}

lemma rotationMatrix_isRotation (h : glm.Exact) (i : Fin 3) (amt : R) :
    IsRotation (glm.rotationMatrix i amt) := by
  match i with
  | 0 => exact h.euler_isRotation 0 amt 0
  | 1 => exact h.euler_isRotation amt 0 0
  | 2 => exact h.euler_isRotation 0 0 amt

lemma rotationMatrix_zero (h : glm.Exact) (i : Fin 3) : glm.rotationMatrix i 0 = 1 := by
  match i with
  | 0 => exact h.euler_zero
  | 1 => exact h.euler_zero
  | 2 => exact h.euler_zero

lemma inverse_isRotation (h : glm.Exact) {M : Mat4 R} (hM : IsRotation M) :
    IsRotation (glm.inverse M) :=
  hM.of_mul_eq_one (h.inverse_mul M hM.isUnit)

lemma mul_inverse (h : glm.Exact) {M : Mat4 R} (hM : IsRotation M) : M * glm.inverse M = 1 :=
  mul_eq_one_comm.mp (h.inverse_mul M hM.isUnit)

/-- The inverse is the only one. -/
lemma inverse_eq (h : glm.Exact) {M N : Mat4 R} (hM : IsRotation M) (hN : M * N = 1) :
    glm.inverse M = N := by
  calc glm.inverse M = glm.inverse M * (M * N) := by rw [hN, mul_one]
    _ = N := by rw [← mul_assoc, h.inverse_mul M hM.isUnit, one_mul]

lemma inverse_inverse (h : glm.Exact) {M : Mat4 R} (hM : IsRotation M) :
    glm.inverse (glm.inverse M) = M :=
  h.inverse_eq (h.inverse_isRotation hM) (h.inverse_mul M hM.isUnit)

lemma inverse_mul_rev (h : glm.Exact) {M N : Mat4 R} (hM : IsRotation M) (hN : IsRotation N) :
    glm.inverse (M * N) = glm.inverse N * glm.inverse M := by
  refine h.inverse_eq (hM.mul hN) ?_
  calc M * N * (glm.inverse N * glm.inverse M)
      = M * (N * glm.inverse N) * glm.inverse M := by simp only [mul_assoc]
    _ = 1 := by rw [h.mul_inverse hN, mul_one, h.mul_inverse hM]

end Glm.Exact

/-! ### Over the reals -/

open Matrix in
/-- glm's formulas over the reals. -/
noncomputable def Glm.real : Glm ℝ where
  eulerAngleYXZ yaw pitch roll := embed (rotY yaw * rotX pitch * rotZ roll)
  inverse M := M⁻¹
  extractEulerAngleXYZ M := extractXYZ (linearPart M)

lemma Glm.real_rotationMatrix_zero (t : ℝ) :
    Glm.real.rotationMatrix 0 t = embed (rotX t) := by
  simp [Glm.rotationMatrix, Glm.real]

lemma Glm.real_rotationMatrix_one (t : ℝ) :
    Glm.real.rotationMatrix 1 t = embed (rotY t) := by
  simp [Glm.rotationMatrix, Glm.real]

lemma Glm.real_rotationMatrix_two (t : ℝ) :
    Glm.real.rotationMatrix 2 t = embed (rotZ t) := by
  simp [Glm.rotationMatrix, Glm.real]

/-- The formulas over the reals do what the documentation says. -/
theorem Glm.real_exact : Glm.real.Exact where
  euler_isRotation yaw pitch roll :=
    ⟨_, mul_mem (mul_mem (rotY_mem yaw) (rotX_mem pitch)) (rotZ_mem roll), rfl⟩
  euler_zero := by simp [Glm.real]
  inverse_mul M hM := Matrix.nonsing_inv_mul M ((Matrix.isUnit_iff_isUnit_det M).mp hM)
  extract M hM := by
    obtain ⟨A, hA, rfl⟩ := hM
    have hangles : Glm.real.extractEulerAngleXYZ (embed A) = extractXYZ A :=
      congrArg extractXYZ (linearPart_embed A)
    rw [hangles, Glm.real_rotationMatrix_zero, Glm.real_rotationMatrix_one,
      Glm.real_rotationMatrix_two, ← embed_mul, ← embed_mul,
      rotX_mul_rotY_mul_rotZ_extractXYZ hA]

end CrazyIvan
