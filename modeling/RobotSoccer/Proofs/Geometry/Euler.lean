import Mathlib
import RobotSoccer.Proofs.Geometry.Turn

/-! Rotations by Euler angles in exact arithmetic: they are rotations of space, the opposite heading
turns them by half a turn about the z-axis, and a heading is read off them. -/
namespace RobotSoccer

theorem Vec3.neg_eq {K : Type} [Scalar K] (v : Vec3 K) : -v = ⟨-v.x, -v.y, -v.z⟩ := rfl

namespace Mat3

open Matrix

/-- The rows as a matrix of the library. -/
def toMatrix {K : Type} (m : Mat3 K) : Matrix (Fin 3) (Fin 3) K :=
  !![m.first.x, m.first.y, m.first.z;
    m.second.x, m.second.y, m.second.z;
    m.third.x, m.third.y, m.third.z]

theorem toMatrix_mul (m n : Mat3 ℝ) : (m * n).toMatrix = m.toMatrix * n.toMatrix := by
  change (mul m n).toMatrix = _
  ext i j
  fin_cases i <;> fin_cases j <;>
    simp [toMatrix, mul, mulRow, entry, Matrix.mul_apply, Fin.sum_univ_three]

/-- A turn about an axis keeps lengths and orientation. -/
theorem about_rotates (angle : ℝ) :
    ∀ m ∈ [aboutX (.exact angle), aboutY (.exact angle), aboutZ (.exact angle)],
      m.toMatrix ∈ specialOrthogonalGroup (Fin 3) ℝ := by
  have one := Real.cos_sq_add_sin_sq angle
  intro m hm
  rw [mem_specialOrthogonalGroup_iff, mem_orthogonalGroup_iff]
  simp only [List.mem_cons, List.not_mem_nil, or_false] at hm
  constructor
  · ext i j
    rcases hm with rfl | rfl | rfl <;> fin_cases i <;> fin_cases j <;>
      simp [toMatrix, aboutX, aboutY, aboutZ, mul_apply, Fin.sum_univ_three] <;>
      linarith
  · rcases hm with rfl | rfl | rfl <;>
      simp [toMatrix, aboutX, aboutY, aboutZ, det_fin_three] <;> linarith

variable (angles : Vec3 ℝ)

theorem ofEuler_rotates : (ofEuler angles).toMatrix ∈ specialOrthogonalGroup (Fin 3) ℝ := by
  rw [ofEuler, ofAngles, toMatrix_mul, toMatrix_mul]
  apply mul_mem
  · apply mul_mem
    · exact about_rotates angles.z _ (by simp)
    · exact about_rotates angles.y _ (by simp)
  · exact about_rotates angles.x _ (by simp)

/-- The entries of the rotation by Euler angles. -/
theorem ofEuler_eq : ofEuler angles =
    ⟨⟨Real.cos angles.z * Real.cos angles.y,
        Real.cos angles.z * Real.sin angles.y * Real.sin angles.x -
          Real.sin angles.z * Real.cos angles.x,
        Real.cos angles.z * Real.sin angles.y * Real.cos angles.x +
          Real.sin angles.z * Real.sin angles.x⟩,
      ⟨Real.sin angles.z * Real.cos angles.y,
        Real.sin angles.z * Real.sin angles.y * Real.sin angles.x +
          Real.cos angles.z * Real.cos angles.x,
        Real.sin angles.z * Real.sin angles.y * Real.cos angles.x -
          Real.cos angles.z * Real.sin angles.x⟩,
      ⟨-Real.sin angles.y, Real.cos angles.y * Real.sin angles.x,
        Real.cos angles.y * Real.cos angles.x⟩⟩ := by
  change mul (mul (aboutZ _) (aboutY _)) (aboutX _) = _
  simp only [mul, mulRow, entry, aboutX, aboutY, aboutZ, Exact.cos_exact, Exact.sin_exact,
    Exact.literal_zero, Exact.literal_one, mk.injEq, Vec3.mk.injEq]
  refine ⟨⟨?_, ?_, ?_⟩, ⟨?_, ?_, ?_⟩, ?_, ?_, ?_⟩ <;> ring

/-- The opposite heading turns the matrix by half a turn about the z-axis. -/
theorem ofEuler_opposite : ofEuler ⟨angles.x, angles.y, oppositeHeading angles.z⟩ =
    ⟨-(ofEuler angles).first, -(ofEuler angles).second, (ofEuler angles).third⟩ := by
  simp only [ofEuler_eq, cos_oppositeHeading, sin_oppositeHeading, Vec3.neg_eq, mk.injEq,
    Vec3.mk.injEq, and_true]
  refine ⟨⟨?_, ?_, ?_⟩, ?_, ?_, ?_⟩ <;> ring

theorem aboutZ_pi_mul (m : Mat3 ℝ) :
    aboutZ (.exact Real.pi) * m = ⟨-m.first, -m.second, m.third⟩ := by
  change mul _ m = _
  simp [mul, mulRow, entry, aboutZ, Vec3.neg_eq]

/-- The heading of a point in polar coordinates. -/
theorem coe_atan2_polar {r : ℝ} (h : 0 < r) (angle : ℝ) :
    ((Scalar.atan2 (Real.sin angle * r) (Real.cos angle * r) : ℝ) : Real.Angle) = angle := by
  have harg := Complex.arg_mul_cos_add_sin_mul_I_coe_angle h angle
  rw [Real.Angle.cos_coe, Real.Angle.sin_coe] at harg
  rw [← harg]
  change ((Complex.arg ⟨_, _⟩ : ℝ) : Real.Angle) = _
  congr 2
  apply Complex.ext <;> simp [-Complex.ofReal_cos, -Complex.ofReal_sin, mul_comm]

variable {angles : Vec3 ℝ}

/-- While the x-axis rises by less than a right angle, its heading is the angle about the z-axis. -/
theorem coe_yaw_ofEuler (h : 0 < Real.cos angles.y) :
    (((ofEuler angles).yaw : ℝ) : Real.Angle) = angles.z := by
  rw [ofEuler_eq]
  exact coe_atan2_polar h angles.z

/-- Beyond a right angle the x-axis points backwards. -/
theorem coe_yaw_ofEuler_beyond (h : Real.cos angles.y < 0) :
    (((ofEuler angles).yaw : ℝ) : Real.Angle) = angles.z + Real.pi := by
  have back := coe_atan2_polar (neg_pos.mpr h) (angles.z + Real.pi)
  rw [Real.cos_add_pi, Real.sin_add_pi, neg_mul_neg, neg_mul_neg, Real.Angle.coe_add] at back
  rw [ofEuler_eq, ← back]
  rfl

/-- An upright x-axis has no heading, and the one that is read is zero. -/
theorem yaw_ofEuler_upright (h : Real.cos angles.y = 0) : (ofEuler angles).yaw = 0 := by
  rw [ofEuler_eq, h, mul_zero, mul_zero]
  exact Complex.arg_zero

end Mat3

/-- The heading of a matrix that is written as rows is read back. -/
theorem Value.readYaw_toValue {K : Type} [Scalar K] (m : Mat3 K) : m.toValue.readYaw = .ok m.yaw :=
  rfl

end RobotSoccer
