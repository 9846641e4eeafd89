import Mathlib.Tactic
import Mathlib.Analysis.SpecialFunctions.Complex.Arg
import CrazyIvan.Geometry.Rotation

/-!
Euler angles over the reals: the rotations about the three axes and the
extraction of the angles of a rotation in the order X, Y, Z.

* `isRotation_rotX`, `isRotation_rotY`, `isRotation_rotZ`.
* `rotX_mul_rotY_mul_rotZ_extractXYZ`: the extracted angles give the rotation
  back, gimbal lock included.
-/

namespace Geometry

open Matrix Real

/-! ### Rotations about an axis -/

/-- The rotation about the first axis. -/
noncomputable def rotX (t : ℝ) : Matrix (Fin 3) (Fin 3) ℝ :=
  !![1, 0, 0;
     0, cos t, -sin t;
     0, sin t, cos t]

/-- The rotation about the second axis. -/
noncomputable def rotY (t : ℝ) : Matrix (Fin 3) (Fin 3) ℝ :=
  !![cos t, 0, sin t;
     0, 1, 0;
     -sin t, 0, cos t]

/-- The rotation about the third axis. -/
noncomputable def rotZ (t : ℝ) : Matrix (Fin 3) (Fin 3) ℝ :=
  !![cos t, -sin t, 0;
     sin t, cos t, 0;
     0, 0, 1]

lemma mem_specialOrthogonalGroup_of_entries {A : Matrix (Fin 3) (Fin 3) ℝ} (h : A * Aᵀ = 1)
    (hdet : A.det = 1) : A ∈ Matrix.specialOrthogonalGroup (Fin 3) ℝ :=
  Matrix.mem_specialOrthogonalGroup_iff.mpr ⟨(Matrix.mem_orthogonalGroup_iff ..).mpr h, hdet⟩

lemma rotX_mem (t : ℝ) : rotX t ∈ Matrix.specialOrthogonalGroup (Fin 3) ℝ := by
  have h := cos_sq_add_sin_sq t
  refine mem_specialOrthogonalGroup_of_entries ?_ ?_
  · ext i j
    fin_cases i <;> fin_cases j <;>
      simp [rotX, Matrix.mul_apply, Fin.sum_univ_three] <;> linarith
  · rw [rotX, Matrix.det_fin_three]
    simp
    linarith

lemma rotY_mem (t : ℝ) : rotY t ∈ Matrix.specialOrthogonalGroup (Fin 3) ℝ := by
  have h := cos_sq_add_sin_sq t
  refine mem_specialOrthogonalGroup_of_entries ?_ ?_
  · ext i j
    fin_cases i <;> fin_cases j <;>
      simp [rotY, Matrix.mul_apply, Fin.sum_univ_three] <;> linarith
  · rw [rotY, Matrix.det_fin_three]
    simp
    linarith

lemma rotZ_mem (t : ℝ) : rotZ t ∈ Matrix.specialOrthogonalGroup (Fin 3) ℝ := by
  have h := cos_sq_add_sin_sq t
  refine mem_specialOrthogonalGroup_of_entries ?_ ?_
  · ext i j
    fin_cases i <;> fin_cases j <;>
      simp [rotZ, Matrix.mul_apply, Fin.sum_univ_three] <;> linarith
  · rw [rotZ, Matrix.det_fin_three]
    simp
    linarith

@[simp] lemma rotX_zero : rotX 0 = 1 := by
  ext i j
  fin_cases i <;> fin_cases j <;> simp [rotX]

@[simp] lemma rotY_zero : rotY 0 = 1 := by
  ext i j
  fin_cases i <;> fin_cases j <;> simp [rotY]

@[simp] lemma rotZ_zero : rotZ 0 = 1 := by
  ext i j
  fin_cases i <;> fin_cases j <;> simp [rotZ]

/-! ### Extraction -/

/-- The angle of a point of the plane. -/
noncomputable def atan2 (y x : ℝ) : ℝ := Complex.arg ⟨x, y⟩

lemma sqrt_mul_cos_atan2 (y x : ℝ) : √(x ^ 2 + y ^ 2) * cos (atan2 y x) = x := by
  have h := Complex.norm_mul_cos_arg ⟨x, y⟩
  rwa [Complex.norm_eq_sqrt_sq_add_sq] at h

lemma sqrt_mul_sin_atan2 (y x : ℝ) : √(x ^ 2 + y ^ 2) * sin (atan2 y x) = y := by
  have h := Complex.norm_mul_sin_arg ⟨x, y⟩
  rwa [Complex.norm_eq_sqrt_sq_add_sq] at h

/-- On the unit circle the angle gives the point back. -/
lemma cos_atan2 {y x : ℝ} (h : x ^ 2 + y ^ 2 = 1) : cos (atan2 y x) = x := by
  simpa [h] using sqrt_mul_cos_atan2 y x

lemma sin_atan2 {y x : ℝ} (h : x ^ 2 + y ^ 2 = 1) : sin (atan2 y x) = y := by
  simpa [h] using sqrt_mul_sin_atan2 y x

/-- The first angle, up to its sign. -/
noncomputable def angle1 (A : Matrix (Fin 3) (Fin 3) ℝ) : ℝ := atan2 (A 1 2) (A 2 2)

/-- The second angle, up to its sign. -/
noncomputable def angle2 (A : Matrix (Fin 3) (Fin 3) ℝ) : ℝ :=
  atan2 (-A 0 2) √(A 0 0 ^ 2 + A 0 1 ^ 2)

/-- The third angle, up to its sign. -/
noncomputable def angle3 (A : Matrix (Fin 3) (Fin 3) ℝ) : ℝ :=
  atan2 (sin (angle1 A) * A 2 0 - cos (angle1 A) * A 1 0)
    (cos (angle1 A) * A 1 1 - sin (angle1 A) * A 2 1)

/-- The angles of a rotation about the axes, in the order X, Y, Z. -/
noncomputable def extractXYZ (A : Matrix (Fin 3) (Fin 3) ℝ) : Fin 3 → ℝ :=
  ![-angle1 A, -angle2 A, -angle3 A]

/-- A rotation is its own matrix of cofactors. -/
lemma transpose_eq_adjugate {A : Matrix (Fin 3) (Fin 3) ℝ}
    (hA : A ∈ Matrix.specialOrthogonalGroup (Fin 3) ℝ) : Aᵀ = A.adjugate := by
  obtain ⟨horth, hdet⟩ := Matrix.mem_specialOrthogonalGroup_iff.mp hA
  have h := (Matrix.mem_orthogonalGroup_iff' ..).mp horth
  calc Aᵀ = Aᵀ * (A * A.adjugate) := by rw [Matrix.mul_adjugate, hdet, one_smul, mul_one]
    _ = A.adjugate := by rw [← mul_assoc, h, one_mul]

/-- The extracted angles give the rotation back. -/
theorem rotX_mul_rotY_mul_rotZ_extractXYZ {A : Matrix (Fin 3) (Fin 3) ℝ}
    (hA : A ∈ Matrix.specialOrthogonalGroup (Fin 3) ℝ) :
    rotX (extractXYZ A 0) * rotY (extractXYZ A 1) * rotZ (extractXYZ A 2) = A := by
  -- the entries are their own cofactors
  have hadj := transpose_eq_adjugate hA
  rw [Matrix.adjugate_fin_three] at hadj
  have hc : ∀ i j, A j i = _ := fun i j => congrFun (congrFun hadj i) j
  have h00 := hc 0 0
  have h10 := hc 0 1
  have h20 := hc 0 2
  have h01 := hc 1 0
  have h11 := hc 1 1
  have h21 := hc 1 2
  have h02 := hc 2 0
  have h12 := hc 2 1
  have h22 := hc 2 2
  simp only [Matrix.of_apply, Matrix.cons_val', Matrix.cons_val_zero, Matrix.cons_val_one,
    Matrix.cons_val] at h00 h10 h20 h01 h11 h21 h02 h12 h22
  -- rows one and two and the last column are orthonormal
  obtain ⟨horth, -⟩ := Matrix.mem_specialOrthogonalGroup_iff.mp hA
  have hrows := (Matrix.mem_orthogonalGroup_iff ..).mp horth
  have hcols := (Matrix.mem_orthogonalGroup_iff' ..).mp horth
  have hrow : ∀ i j, ∑ k, A i k * A j k = (1 : Matrix (Fin 3) (Fin 3) ℝ) i j := fun i j =>
    congrFun (congrFun hrows i) j
  have hcol : ∀ i j, ∑ k, A k i * A k j = (1 : Matrix (Fin 3) (Fin 3) ℝ) i j := fun i j =>
    congrFun (congrFun hcols i) j
  have hr00 := hrow 0 0
  have hr11 := hrow 1 1
  have hr22 := hrow 2 2
  have hr12 := hrow 1 2
  have hc22 := hcol 2 2
  simp [Fin.sum_univ_three] at hr00 hr11 hr22 hr12 hc22
  -- the first angle
  set C := cos (angle1 A) with hC
  set S := sin (angle1 A) with hS
  set r := √(A 2 2 ^ 2 + A 1 2 ^ 2) with hr
  have hrC : r * C = A 2 2 := sqrt_mul_cos_atan2 _ _
  have hrS : r * S = A 1 2 := sqrt_mul_sin_atan2 _ _
  have hCS : C ^ 2 + S ^ 2 = 1 := cos_sq_add_sin_sq _
  -- the second angle
  have hr' : √(A 0 0 ^ 2 + A 0 1 ^ 2) = r := by
    rw [hr]
    congr 1
    linarith
  have hrsq : r ^ 2 = A 2 2 ^ 2 + A 1 2 ^ 2 := Real.sq_sqrt (by positivity)
  have hunit2 : r ^ 2 + (-A 0 2) ^ 2 = 1 := by linarith
  have hcos2 : cos (angle2 A) = r := by
    rw [angle2, hr']
    exact cos_atan2 hunit2
  have hsin2 : sin (angle2 A) = -A 0 2 := by
    rw [angle2, hr']
    exact sin_atan2 hunit2
  -- the third angle; `C * A 1 2 = S * A 2 2` is what the first one achieves
  have hzero : C * A 1 2 - S * A 2 2 = 0 := by rw [← hrC, ← hrS]; ring
  have hunit3 : (C * A 1 1 - S * A 2 1) ^ 2 + (S * A 2 0 - C * A 1 0) ^ 2 = 1 := by
    linear_combination C ^ 2 * hr11 + S ^ 2 * hr22 - 2 * C * S * hr12 + hCS
      - (C * A 1 2 - S * A 2 2) * hzero
  have hcos3 : cos (angle3 A) = C * A 1 1 - S * A 2 1 := cos_atan2 hunit3
  have hsin3 : sin (angle3 A) = S * A 2 0 - C * A 1 0 := sin_atan2 hunit3
  ext i j
  fin_cases i <;> fin_cases j <;>
    simp [rotX, rotY, rotZ, extractXYZ, Matrix.mul_apply, Fin.sum_univ_three, hcos2, hsin2,
      hcos3, hsin3, ← hC, ← hS]
  · linear_combination A 1 1 * hrC - A 2 1 * hrS - h00
  · linear_combination A 2 0 * hrS - A 1 0 * hrC - h01
  · linear_combination -S * C * h20 - S ^ 2 * h10 + A 1 0 * hCS - S * A 0 1 * hzero
  · linear_combination -S ^ 2 * h11 - S * C * h21 + A 1 1 * hCS + S * A 0 0 * hzero
  · linear_combination hrS
  · linear_combination -C ^ 2 * h20 - C * S * h10 + A 2 0 * hCS - C * A 0 1 * hzero
  · linear_combination -C * S * h11 - C ^ 2 * h21 + A 2 1 * hCS + C * A 0 0 * hzero
  · linear_combination hrC

end Geometry
