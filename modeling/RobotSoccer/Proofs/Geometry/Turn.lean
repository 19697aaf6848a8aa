import Mathlib
import RobotSoccer.Geometry.Rotation
import RobotSoccer.Proofs.Numeric.Exact

/-! Headings and rotations about the z-axis in exact arithmetic. Headings are compared as angles,
that is up to full turns. -/
namespace RobotSoccer

theorem headingOf_eq (angle : ℝ) :
    headingOf angle = angle - 2 * Real.pi * ⌊(angle + Real.pi) / (2 * Real.pi)⌋ := by
  rw [headingOf, Exact.literal_two]
  change angle + Real.pi - 2 * Real.pi * ⌊(angle + Real.pi) / (2 * Real.pi)⌋ - Real.pi = _
  ring

theorem coe_headingOf (angle : ℝ) : ((headingOf angle : ℝ) : Real.Angle) = angle := by
  rw [headingOf_eq, Real.Angle.angle_eq_iff_two_pi_dvd_sub]
  refine ⟨-⌊(angle + Real.pi) / (2 * Real.pi)⌋, ?_⟩
  push_cast
  ring

theorem coe_halfTurned (heading : ℝ) :
    ((halfTurned heading : ℝ) : Real.Angle) = heading + Real.pi := by
  unfold halfTurned
  split
  · change ((heading - Real.pi : ℝ) : Real.Angle) = _
    rw [Real.Angle.coe_sub, Real.Angle.sub_coe_pi_eq_add_coe_pi]
  · exact Real.Angle.coe_add _ _

namespace Exact

@[simp] theorem cos_exact (angle : ℝ) : (Angle.exact angle).cos = Real.cos angle := rfl

@[simp] theorem sin_exact (angle : ℝ) : (Angle.exact angle).sin = Real.sin angle := rfl

theorem isHeading_iff {angle : ℝ} :
    isHeading angle = true ↔ -Real.pi ≤ angle ∧ angle < Real.pi := by
  rw [isHeading, Bool.and_eq_true, le_iff, lt_iff]
  rfl

theorem isHeading_zero : isHeading (0.0 : ℝ) = true := by
  rw [isHeading_iff, literal_zero]
  constructor <;> linarith [Real.pi_pos]

theorem isHeading_headingOf (angle : ℝ) : isHeading (headingOf angle) = true := by
  have low := Int.sub_floor_div_mul_nonneg (angle + Real.pi) Real.two_pi_pos
  have high := Int.sub_floor_div_mul_lt (angle + Real.pi) Real.two_pi_pos
  rw [isHeading_iff, headingOf_eq]
  constructor <;> linarith

/-- An angle has one heading. -/
theorem heading_unique {a b : ℝ} (ha : isHeading a = true) (hb : isHeading b = true)
    (h : (a : Real.Angle) = b) : a = b := by
  rw [isHeading_iff] at ha hb
  obtain ⟨k, hk⟩ := Real.Angle.angle_eq_iff_two_pi_dvd_sub.mp h
  have turn := Real.two_pi_pos
  -- headings are less than a full turn apart
  have above : (-1 : ℝ) < k := by nlinarith
  have below : (k : ℝ) < 1 := by nlinarith
  norm_cast at above below
  obtain rfl : k = 0 := by omega
  simpa [sub_eq_zero] using hk

theorem headingOf_of_isHeading {angle : ℝ} (h : isHeading angle = true) :
    headingOf angle = angle :=
  heading_unique (isHeading_headingOf angle) h (coe_headingOf angle)

theorem isHeading_halfTurned {heading : ℝ} (h : isHeading heading = true) :
    isHeading (halfTurned heading) = true := by
  rw [isHeading_iff] at h ⊢
  have side : Scalar.le (0.0 : ℝ) heading = true ↔ 0 ≤ heading := by rw [le_iff, literal_zero]
  rcases le_or_gt 0 heading with hn | hn
  · rw [halfTurned, if_pos (side.mpr hn)]
    change _ ≤ heading - Real.pi ∧ heading - Real.pi < _
    constructor <;> linarith
  · rw [halfTurned, if_neg (side.not.mpr hn.not_ge)]
    change _ ≤ heading + Real.pi ∧ heading + Real.pi < _
    constructor <;> linarith

/-- Nothing is rounded, so the opposite heading is the heading moved by half a turn. -/
theorem oppositeHeading_eq (angle : ℝ) : oppositeHeading angle = halfTurned (headingOf angle) := by
  have inRange : (if isHeading angle then angle else headingOf angle) = headingOf angle := by
    split
    · exact (headingOf_of_isHeading ‹_›).symm
    · rfl
  have below := (isHeading_iff.mp (isHeading_halfTurned (isHeading_headingOf angle))).2
  have hlt : Scalar.lt (halfTurned (headingOf angle)) (Scalar.pi : ℝ) = true := lt_iff.mpr below
  simp only [oppositeHeading, inRange, hlt, if_true]

theorem isHeading_oppositeHeading (angle : ℝ) : isHeading (oppositeHeading angle) = true := by
  rw [oppositeHeading_eq]
  exact isHeading_halfTurned (isHeading_headingOf angle)

end Exact

/-- The opposite heading is half a turn away. -/
theorem coe_oppositeHeading (angle : ℝ) :
    ((oppositeHeading angle : ℝ) : Real.Angle) = angle + Real.pi := by
  rw [Exact.oppositeHeading_eq, coe_halfTurned, coe_headingOf]

@[simp] theorem cos_oppositeHeading (angle : ℝ) :
    Real.cos (oppositeHeading angle) = -Real.cos angle := by
  rw [← Real.Angle.cos_coe, coe_oppositeHeading, Real.Angle.cos_add_pi, Real.Angle.cos_coe]

@[simp] theorem sin_oppositeHeading (angle : ℝ) :
    Real.sin (oppositeHeading angle) = -Real.sin angle := by
  rw [← Real.Angle.sin_coe, coe_oppositeHeading, Real.Angle.sin_add_pi, Real.Angle.sin_coe]

theorem coe_yaw_aboutZ (yaw : ℝ) :
    (((Mat3.aboutZ (.exact yaw)).yaw : ℝ) : Real.Angle) = yaw := by
  have h := Complex.arg_cos_add_sin_mul_I_coe_angle yaw
  rw [Real.Angle.cos_coe, Real.Angle.sin_coe, ← Complex.mk_eq_add_mul_I] at h
  exact h

theorem aboutX_zero : Mat3.aboutX (.exact (0 : ℝ)) = ⟨⟨1, 0, 0⟩, ⟨0, 1, 0⟩, ⟨0, 0, 1⟩⟩ := by
  simp [Mat3.aboutX]

theorem aboutY_zero : Mat3.aboutY (.exact (0 : ℝ)) = ⟨⟨1, 0, 0⟩, ⟨0, 1, 0⟩, ⟨0, 0, 1⟩⟩ := by
  simp [Mat3.aboutY]

theorem Mat3.mul_one (m : Mat3 ℝ) : m * (⟨⟨1, 0, 0⟩, ⟨0, 1, 0⟩, ⟨0, 0, 1⟩⟩ : Mat3 ℝ) = m := by
  change Mat3.mul m _ = m
  simp [mul, mulRow, entry]

/-- Without turns about the x-axis and the y-axis only that about the z-axis is left. -/
theorem Mat3.ofEuler_level (angle : ℝ) :
    Mat3.ofEuler ⟨0, 0, angle⟩ = Mat3.aboutZ (.exact angle) := by
  rw [ofEuler, ofAngles, aboutX_zero, aboutY_zero, mul_one, mul_one]

end RobotSoccer
