import Mathlib
import RobotSoccer.Geometry.Pose
import RobotSoccer.Proofs.Geometry.Plane
import RobotSoccer.Proofs.Geometry.Turn

/-! Poses as rigid motions of the ground plane, in exact arithmetic. A pose whose rotation is in
range is known from where it carries the points, so that laws of motions are laws of poses. -/
namespace RobotSoccer.Pose

section

variable {K : Type} [Scalar K] (a : Pose K)

/-- Where a pose carries a point: the point is given relative to the pose, and read in the frame that
the pose is given in. -/
def carry (v : Vec2 K) : Vec2 K := a.position + v.rotate a.rotation

/-- The pose with its rotation in range. -/
def normalised : Pose K := ⟨headingOf a.rotation, a.position⟩

/-- The pose that carries the points back. -/
def inverse : Pose K := ⟨headingOf (-a.rotation), (-a.position).rotate (-a.rotation)⟩

/-- Half a turn about the origin. -/
def halfTurn : Pose K := ⟨Scalar.pi, Vec2.zero⟩

end

variable (a b c : Pose ℝ) (v : Vec2 ℝ)

@[simp] theorem carry_add : (a + b).carry v = a.carry (b.carry v) := by
  have turned : v.rotate (a + b).rotation = (v.rotate b.rotation).rotate a.rotation := by
    rw [Vec2.rotate_rotate, add_comm]
    exact v.rotate_congr (coe_headingOf _)
  rw [carry, turned, carry, carry, Vec2.rotate_add]
  ext
  · exact add_assoc _ _ _
  · exact add_assoc _ _ _

@[simp] theorem carry_origin : origin.carry v = v := by
  ext <;> simp [carry, origin, Vec2.zero_eq]

@[simp] theorem carry_normalised : a.normalised.carry v = a.carry v := by
  have turned : v.rotate a.normalised.rotation = v.rotate a.rotation :=
    v.rotate_congr (coe_headingOf a.rotation)
  rw [carry, turned]
  rfl

@[simp] theorem carry_halfTurn : halfTurn.carry v = -v := by
  have turned : v.rotate (Scalar.pi : ℝ) = -v := v.rotate_pi
  ext <;> simp [carry, halfTurn, turned, Vec2.zero_eq]

@[simp] theorem carry_opposite : a.opposite.carry v = -a.carry v := by
  have turned : v.rotate a.opposite.rotation = -v.rotate a.rotation := by
    rw [← Vec2.rotate_pi, Vec2.rotate_rotate]
    exact v.rotate_congr (coe_oppositeHeading a.rotation)
  rw [carry, carry, turned]
  ext
  · exact (neg_add _ _).symm
  · exact (neg_add _ _).symm

theorem carry_inverse : a.inverse.carry v = (-a.position + v).rotate (-a.rotation) := by
  have turned : v.rotate a.inverse.rotation = v.rotate (-a.rotation) :=
    v.rotate_congr (coe_headingOf (-a.rotation))
  rw [carry, turned, Vec2.rotate_add]
  rfl

@[simp] theorem carry_inverse_carry : a.inverse.carry (a.carry v) = v := by
  have moved : -a.position + a.carry v = v.rotate a.rotation := by
    ext <;> simp [carry]
  rw [carry_inverse, moved, Vec2.rotate_rotate, add_neg_cancel, Vec2.rotate_zero]

@[simp] theorem carry_carry_inverse : a.carry (a.inverse.carry v) = v := by
  rw [carry_inverse, carry, Vec2.rotate_rotate, neg_add_cancel, Vec2.rotate_zero]
  ext <;> simp

/-- A pose whose rotation is in range is known from where it carries the points. -/
theorem eq_of_carry {a b : Pose ℝ} (ha : isHeading a.rotation = true)
    (hb : isHeading b.rotation = true) (h : ∀ v, a.carry v = b.carry v) : a = b := by
  have place (p : Pose ℝ) : p.carry Vec2.zero = p.position := by
    ext <;> simp [carry, Vec2.zero_eq, Vec2.rotate_eq]
  have position : a.position = b.position := by rw [← place, h, place]
  -- the point in front of the pose shows the cosine and the sine of the rotation
  have ahead := h ⟨1, 0⟩
  simp only [carry, position, Vec2.rotate_eq, Vec2.ext_iff, Vec2.add_x, Vec2.add_y, one_mul,
    zero_mul, sub_zero, add_zero, add_right_inj] at ahead
  obtain ⟨hcos, hsin⟩ := ahead
  have rotation : a.rotation = b.rotation :=
    Exact.heading_unique ha hb (Real.Angle.cos_sin_inj hcos hsin)
  cases a
  cases b
  simp_all

theorem isHeading_add : isHeading (a + b).rotation = true := Exact.isHeading_headingOf _

theorem isHeading_normalised : isHeading a.normalised.rotation = true :=
  Exact.isHeading_headingOf a.rotation

theorem isHeading_inverse : isHeading a.inverse.rotation = true :=
  Exact.isHeading_headingOf (-a.rotation)

theorem isHeading_opposite : isHeading a.opposite.rotation = true :=
  Exact.isHeading_oppositeHeading a.rotation

/-- Sums of poses are composed motions: they obey the laws of motions, half a turn included, whatever
the rotations of the poses are. -/
theorem poses_compose_as_motions :
    (∀ a b : Pose ℝ, a.given.add b.given = .ok (a + b)) ∧
    (∀ (a b : Pose ℝ) v, (a + b).carry v = a.carry (b.carry v)) ∧
    (∀ a b c : Pose ℝ, a + b + c = a + (b + c)) ∧
    (∀ a : Pose ℝ, origin + a = a.normalised ∧ a + origin = a.normalised) ∧
    (∀ a : Pose ℝ, ∃ b, isHeading b.rotation = true ∧ a + b = origin ∧ b + a = origin) ∧
    (∀ a : Pose ℝ, a.given.opposite = .ok a.opposite ∧ a.opposite = halfTurn + a) ∧
    ∀ a b : Pose ℝ, (a + b).opposite = a.opposite + b := by
  refine ⟨fun _ _ => rfl, carry_add, ?_, ?_, ?_, ?_, ?_⟩
  · intro a b c
    apply eq_of_carry (isHeading_add (a + b) c) (isHeading_add a (b + c))
    simp
  · intro a
    constructor
    · apply eq_of_carry (isHeading_add origin a) (isHeading_normalised a)
      simp
    · apply eq_of_carry (isHeading_add a origin) (isHeading_normalised a)
      simp
  · intro a
    refine ⟨a.inverse, isHeading_inverse a, ?_, ?_⟩
    · apply eq_of_carry (isHeading_add a a.inverse) Exact.isHeading_zero
      simp
    · apply eq_of_carry (isHeading_add a.inverse a) Exact.isHeading_zero
      simp
  · intro a
    refine ⟨GivenPose.opposite_given a, ?_⟩
    apply eq_of_carry (isHeading_opposite a) (isHeading_add halfTurn a)
    simp
  · intro a b
    apply eq_of_carry (isHeading_opposite (a + b)) (isHeading_add a.opposite b)
    simp

end RobotSoccer.Pose
