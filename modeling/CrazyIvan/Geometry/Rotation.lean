import Mathlib.Tactic
import Mathlib.LinearAlgebra.UnitaryGroup
import Mathlib.LinearAlgebra.Matrix.Adjugate

/-!
Rigid motions in homogeneous coordinates: 4x4 matrices of translations and of
rotations.

* `translationMatrix_mul`, `prod_translationMatrix`: translations compose by adding
  their vectors, in any order.
* `forall_sandwich_iff`: what acts on the right of every element is determined.
* `IsRotation`: the proper rotations, closed under products
  (`IsRotation.mul`) and invertible (`IsRotation.exists_inverse`).
-/

namespace Geometry

open Matrix

/-- The matrices acting on homogeneous coordinates. -/
abbrev Mat4 (R : Type) := Matrix (Fin 4) (Fin 4) R

variable {R : Type} [CommRing R]

-- The indices of the axes are numerals by one instance in every module.
instance neZero_three : NeZero (3 : ℕ) := ⟨by decide⟩

/-! ### Translations -/

/-- The translation by a vector. -/
def translationMatrix (v : Fin 3 → R) : Mat4 R :=
  !![1, 0, 0, v 0;
     0, 1, 0, v 1;
     0, 0, 1, v 2;
     0, 0, 0, 1]

@[simp] lemma translationMatrix_zero : translationMatrix (0 : Fin 3 → R) = 1 := by
  ext i j
  fin_cases i <;> fin_cases j <;> rfl

lemma translationMatrix_mul (v w : Fin 3 → R) :
    translationMatrix v * translationMatrix w = translationMatrix (v + w) := by
  ext i j
  fin_cases i <;> fin_cases j <;>
    simp [translationMatrix, Matrix.mul_apply, Fin.sum_univ_four, add_comm]

/-- A chain of translations, in either order, is the translation by the sum. -/
lemma prod_translationMatrix (vs : List (Fin 3 → R)) :
    (vs.map translationMatrix).prod = translationMatrix vs.sum := by
  induction vs with
  | nil => simp
  | cons v vs ih => rw [List.map_cons, List.prod_cons, ih, translationMatrix_mul, List.sum_cons]

lemma prod_reverse_translationMatrix (vs : List (Fin 3 → R)) :
    (vs.map translationMatrix).reverse.prod = translationMatrix vs.sum := by
  rw [← List.map_reverse, prod_translationMatrix, List.sum_reverse]

/-- Two matrices that act alike on the right of every translated element are
one. -/
lemma forall_sandwich_iff (v : Fin 3 → R) (A B : Mat4 R) :
    (∀ s, translationMatrix v * s * A = translationMatrix v * s * B) ↔ A = B := by
  constructor
  · intro h
    have h1 := h (translationMatrix (-v))
    rwa [translationMatrix_mul, add_neg_cancel, translationMatrix_zero, one_mul, one_mul] at h1
  · rintro rfl s
    rfl

/-! ### Rotations -/

/-- A linear map of space as a map of homogeneous coordinates. -/
def embed (A : Matrix (Fin 3) (Fin 3) R) : Mat4 R :=
  !![A 0 0, A 0 1, A 0 2, 0;
     A 1 0, A 1 1, A 1 2, 0;
     A 2 0, A 2 1, A 2 2, 0;
     0, 0, 0, 1]

/-- The linear part of a map of homogeneous coordinates. -/
def linearPart (M : Mat4 R) : Matrix (Fin 3) (Fin 3) R := M.submatrix Fin.castSucc Fin.castSucc

@[simp] lemma linearPart_embed (A : Matrix (Fin 3) (Fin 3) R) : linearPart (embed A) = A := by
  ext i j
  fin_cases i <;> fin_cases j <;> rfl

@[simp] lemma embed_one : embed (1 : Matrix (Fin 3) (Fin 3) R) = 1 := by
  ext i j
  fin_cases i <;> fin_cases j <;> simp [embed]

lemma embed_mul (A B : Matrix (Fin 3) (Fin 3) R) : embed (A * B) = embed A * embed B := by
  ext i j
  fin_cases i <;> fin_cases j <;>
    simp [embed, Matrix.mul_apply, Fin.sum_univ_three, Fin.sum_univ_four]

/-- A proper rotation: an orthogonal matrix of determinant one. -/
def IsRotation (M : Mat4 R) : Prop :=
  ∃ A ∈ Matrix.specialOrthogonalGroup (Fin 3) R, embed A = M

namespace IsRotation

lemma one : IsRotation (1 : Mat4 R) := ⟨1, one_mem _, embed_one⟩

lemma mul {M N : Mat4 R} (hM : IsRotation M) (hN : IsRotation N) : IsRotation (M * N) := by
  obtain ⟨A, hA, rfl⟩ := hM
  obtain ⟨B, hB, rfl⟩ := hN
  exact ⟨A * B, mul_mem hA hB, embed_mul A B⟩

/-- The inverse of a rotation is a rotation. -/
lemma exists_inverse {M : Mat4 R} (hM : IsRotation M) :
    ∃ N, IsRotation N ∧ M * N = 1 ∧ N * M = 1 := by
  obtain ⟨A, hA, rfl⟩ := hM
  obtain ⟨horth, hdet⟩ := Matrix.mem_specialOrthogonalGroup_iff.mp hA
  have hAt : Aᵀ ∈ Matrix.specialOrthogonalGroup (Fin 3) R := by
    rw [Matrix.mem_specialOrthogonalGroup_iff, Matrix.mem_orthogonalGroup_iff',
      Matrix.transpose_transpose, Matrix.det_transpose]
    exact ⟨(Matrix.mem_orthogonalGroup_iff ..).mp horth, hdet⟩
  refine ⟨embed Aᵀ, ⟨Aᵀ, hAt, rfl⟩, ?_, ?_⟩
  · rw [← embed_mul, (Matrix.mem_orthogonalGroup_iff ..).mp horth, embed_one]
  · rw [← embed_mul, (Matrix.mem_orthogonalGroup_iff' ..).mp horth, embed_one]

lemma isUnit {M : Mat4 R} (hM : IsRotation M) : IsUnit M := by
  obtain ⟨N, -, hMN, hNM⟩ := hM.exists_inverse
  exact ⟨⟨M, N, hMN, hNM⟩, rfl⟩

/-- Whatever inverts a rotation is a rotation. -/
lemma of_mul_eq_one {M N : Mat4 R} (hM : IsRotation M) (h : N * M = 1) : IsRotation N := by
  obtain ⟨N', hN', hMN', -⟩ := hM.exists_inverse
  have : N = N' := by
    calc N = N * (M * N') := by rw [hMN', mul_one]
      _ = N' := by rw [← mul_assoc, h, one_mul]
  rwa [this]

end IsRotation

end Geometry
