import Mathlib
import RobotSoccer.Body.Motion
import RobotSoccer.Frame
import RobotSoccer.Proofs.Geometry.Euler
import RobotSoccer.Proofs.Outcome

/-! A body that has been placed, as it is read afterwards: where it was put, and turned as it was
told or as it was before. -/
namespace RobotSoccer.Variant

section

variable {K : Type} (variant : Variant)

/-- A place as a variant has it: on the plane it is at one height. -/
def levelled (height : K) (v : Vec3 K) : Vec3 K :=
  match variant with
  | .volumetric => v
  | .planar => v.withHeight height

theorem levelled_level (height : K) (v : Vec3 K) : (variant.levelled height v).level = v.level := by
  cases variant <;> rfl

variable [Scalar K]

theorem position_levelled (f : Frame) (height : K) (v : Vec3 K) :
    f.position (variant.levelled height v) = variant.levelled height (f.position v) := by
  obtain ⟨turned⟩ := f
  cases variant <;> cases turned <;> rfl

/-- The heading of a body, wherever it is, and whether it stands upright. -/
def facing (body : Body K) : Except Fault (K × Bool) := do
  let (pose, upright) ← variant.pose { body with position := Vec3.zero.toValue }
  return (pose.rotation, upright)

theorem facing_of_rotation {b c : Body K} (h : c.rotation = b.rotation) :
    variant.facing c = variant.facing b := by
  unfold facing pose
  cases variant <;> simp only [h] <;> rfl

/-- A pose has its heading from the body's rotation and its place from the body's position. -/
theorem pose_eq {body : Body K} {place : Vec2 K} (h : variant.levelPosition body = .ok place) :
    variant.pose body = (do
      let (heading, upright) ← variant.facing body
      return (⟨heading, place⟩, upright)) := by
  unfold facing pose
  cases variant with
  | volumetric =>
    cases body.rotation.readYaw with
    | error fault => rfl
    | ok yaw =>
      simp only [h, bind_assoc, pure_bind]
      rfl
  | planar =>
    cases body.rotation.readReal with
    | error fault => rfl
    | ok heading =>
      simp only [h]
      rfl

theorem levelPosition_of_pose {body : Body K} {p : Pose K} {upright : Bool}
    (h : variant.pose body = .ok (p, upright)) : variant.levelPosition body = .ok p.position := by
  cases variant with
  | volumetric =>
    obtain ⟨yaw, -, h⟩ := ok_of_bind h
    obtain ⟨place, hplace, h⟩ := ok_of_bind h
    obtain ⟨row, -, h⟩ := ok_of_bind h
    obtain ⟨tilt, -, h⟩ := ok_of_bind h
    obtain ⟨upright, -, h⟩ := ok_of_bind h
    cases h
    exact hplace
  | planar =>
    obtain ⟨heading, -, h⟩ := ok_of_bind h
    obtain ⟨place, hplace, h⟩ := ok_of_bind h
    cases h
    exact hplace

theorem facing_of_pose {body : Body K} {p : Pose K} {upright : Bool}
    (h : variant.pose body = .ok (p, upright)) :
    variant.facing body = .ok (p.rotation, upright) := by
  rw [variant.pose_eq (variant.levelPosition_of_pose h)] at h
  obtain ⟨⟨heading, stands⟩, hfacing, h⟩ := ok_of_bind h
  obtain ⟨rotation, position⟩ := p
  cases h
  exact hfacing

theorem facing_planar_upright {body : Body K} {heading : K} {upright : Bool}
    (h : planar.facing body = .ok (heading, upright)) : upright = true := by
  obtain ⟨⟨p, stands⟩, hpose, h⟩ := ok_of_bind h
  cases h
  obtain ⟨heading, -, hpose⟩ := ok_of_bind hpose
  obtain ⟨place, -, hpose⟩ := ok_of_bind hpose
  cases hpose
  rfl

end

variable (variant : Variant) (v : Vec3 ℝ) {body : Body ℝ}

/-- A position in millimetres is read back. -/
theorem position_placed (h : body.position = variant.bodyPosition (.spatial v)) :
    variant.position body = .ok (variant.levelled 0 v) := by
  have hscale (x : ℝ) : x / millimetresPerMetre * millimetresPerMetre = x :=
    div_mul_cancel₀ x (by norm_num [millimetresPerMetre, Exact.literal])
  cases variant with
  | volumetric =>
    rw [position, rawPosition, h]
    change Except.ok (⟨v.x / _ * _, v.y / _ * _, v.z / _ * _⟩ : Vec3 ℝ) = _
    simp only [hscale]
    rfl
  | planar =>
    rw [position, rawPosition, h]
    change Except.ok (⟨v.x / _ * _, v.y / _ * _, 0.0 * _⟩ : Vec3 ℝ) = _
    simp only [hscale, Exact.literal_zero, zero_mul]
    rfl

theorem levelPosition_placed (h : body.position = variant.bodyPosition (.spatial v)) :
    variant.levelPosition body = .ok v.level := by
  rw [levelPosition, variant.position_placed v h]
  exact congrArg Except.ok (variant.levelled_level 0 v)

theorem ballPosition_placed (h : body.position = variant.bodyPosition (.spatial v)) :
    variant.ballPosition body = .ok (variant.levelled 50 v) := by
  have hradius : (ballRadius : ℝ) = 50 := by norm_num [ballRadius, Exact.literal]
  rw [ballPosition, variant.position_placed v h]
  cases variant with
  | volumetric => rfl
  | planar =>
    change Except.ok (v.withHeight ballRadius) = _
    rw [hradius]
    rfl

/-- A body that is only put elsewhere can be read if it could be before. -/
theorem pose_answers_placed {placed : Body ℝ} {v : Vec3 ℝ}
    (hposition : placed.position = variant.bodyPosition (.spatial v))
    (hrotation : placed.rotation = body.rotation) (h : ∃ q, variant.pose body = .ok q) :
    ∃ q, variant.pose placed = .ok q := by
  obtain ⟨⟨p, upright⟩, hp⟩ := h
  rw [variant.pose_eq (variant.levelPosition_placed v hposition),
    variant.facing_of_rotation hrotation, variant.facing_of_pose hp]
  exact ⟨_, rfl⟩

/-- In space a body that was turned by Euler angles shows the heading of their matrix, and stands
upright if its z-axis is tilted little. -/
theorem facing_euler {angles : Vec3 ℝ} (h : body.rotation = (Mat3.ofEuler angles).toValue) :
    ∃ upright, volumetric.facing body = .ok ((Mat3.ofEuler angles).yaw, upright) ∧
      (upright = true ↔ 0.3 ≤ Real.cos angles.x * Real.cos angles.y) := by
  refine ⟨Scalar.le uprightCosine (Mat3.ofEuler angles).third.z, ?_, ?_⟩
  · unfold facing pose
    rw [h, Value.readYaw_toValue]
    rfl
  · have htilt : (Mat3.ofEuler angles).third.z = Real.cos angles.y * Real.cos angles.x := by
      rw [Mat3.ofEuler_eq]
    have hcosine : (uprightCosine : ℝ) = 0.3 := rfl
    rw [Exact.le_iff, htilt, hcosine, mul_comm]

/-- A body that was turned by Euler angles shows the one about the z-axis as its heading. In space
it stands upright if its z-axis is tilted little. -/
theorem facing_turned (angles : Vec3 ℝ)
    (h : variant.bodyRotation (.spatial angles) = .ok body.rotation)
    (level : variant = volumetric → 0 < Real.cos angles.y) :
    ∃ heading upright, variant.facing body = .ok (heading, upright) ∧
      (heading : Real.Angle) = angles.z ∧
      (upright = true ↔
        variant = planar ∨ 0.3 ≤ Real.cos angles.x * Real.cos angles.y) := by
  cases variant with
  | planar =>
    have hrotation : Value.real angles.z = body.rotation := Except.ok.inj h
    refine ⟨angles.z, true, ?_, rfl, by simp⟩
    unfold facing pose
    rw [← hrotation]
    rfl
  | volumetric =>
    have hrotation : (Mat3.ofEuler angles).toValue = body.rotation := Except.ok.inj h
    obtain ⟨upright, hfacing, hupright⟩ := facing_euler hrotation.symm
    refine ⟨_, upright, hfacing, Mat3.coe_yaw_ofEuler (level rfl), ?_⟩
    rw [hupright]
    simp

end RobotSoccer.Variant
