import Mathlib
import RobotSoccer.Proofs.Body.Placement
import RobotSoccer.Proofs.Geometry.Frame

/-! Bodies in space that are turned by Euler angles, in the host's frame or in the turned one: the
matrix that they get, and the heading and the tilt that are read back. -/
namespace RobotSoccer

/-- The turned frame takes Euler angles half a turn about the z-axis further. -/
theorem Frame.ofEuler_euler {f : Frame} (h : f.turned = true) (angles : Vec3 ℝ) :
    Mat3.ofEuler (f.euler angles) =
      ⟨-(Mat3.ofEuler angles).first, -(Mat3.ofEuler angles).second,
        (Mat3.ofEuler angles).third⟩ := by
  rw [euler, heading, if_pos h]
  exact Mat3.ofEuler_opposite angles

namespace Variant

/-- A body that is placed in space by Euler angles is read at its place, with the heading of their
matrix, and upright if its z-axis is tilted little. -/
theorem pose_placed (v angles : Vec3 ℝ) (body : Body ℝ) : ∃ placed upright,
    volumetric.place (.spatial v) (some (.spatial angles)) body = .ok placed ∧
      volumetric.pose placed = .ok (⟨(Mat3.ofEuler angles).yaw, v.level⟩, upright) ∧
      (upright = true ↔ 0.3 ≤ Real.cos angles.x * Real.cos angles.y) := by
  let placed :=
    body.place (volumetric.bodyPosition (.spatial v)) (some (Mat3.ofEuler angles).toValue)
  have hrotation : placed.rotation = (Mat3.ofEuler angles).toValue := rfl
  obtain ⟨upright, hfacing, hupright⟩ := facing_euler hrotation
  refine ⟨placed, upright, rfl, ?_, hupright⟩
  rw [pose_eq volumetric (levelPosition_placed volumetric v rfl), hfacing]
  rfl

end Variant

/-- Euler angles give a rotation of space. Its heading is the angle about the z-axis, or the opposite
one if the body is pitched beyond a right angle; the turned frame changes the sign of the first two
rows; and a body that is placed by the angles, in whichever frame, stands upright just if its z-axis
is tilted little. -/
theorem euler_angles_turn_bodies (angles : Vec3 ℝ) :
    Mat3.ofEulerRow angles.toValue = .ok (Mat3.ofEuler angles) ∧
    (Mat3.ofEuler angles).toMatrix ∈ Matrix.specialOrthogonalGroup (Fin 3) ℝ ∧
    (∃ yaw, (Mat3.ofEuler angles).toValue.readYaw = .ok yaw ∧
      (0 < Real.cos angles.y → (yaw : Real.Angle) = angles.z) ∧
      (Real.cos angles.y < 0 → (yaw : Real.Angle) = angles.z + Real.pi) ∧
      (Real.cos angles.y = 0 → yaw = 0)) ∧
    (∀ f : Frame, f.givenEuler (.spatial angles) = .ok (.spatial (f.euler angles))) ∧
    (∀ f : Frame, f.turned = true →
      Mat3.ofEuler (f.euler angles) = Mat3.aboutZ (.exact Real.pi) * Mat3.ofEuler angles ∧
      Mat3.ofEuler (f.euler angles) =
        ⟨-(Mat3.ofEuler angles).first, -(Mat3.ofEuler angles).second,
          (Mat3.ofEuler angles).third⟩) ∧
    ∀ (f : Frame) (v : Vec3 ℝ) (body : Body ℝ), ∃ placed upright,
      Variant.volumetric.place (.spatial v) (some (.spatial (f.euler angles))) body = .ok placed ∧
        Variant.volumetric.pose placed =
          .ok (⟨(Mat3.ofEuler (f.euler angles)).yaw, v.level⟩, upright) ∧
        (upright = true ↔ 0.3 ≤ Real.cos angles.x * Real.cos angles.y) := by
  refine ⟨rfl, Mat3.ofEuler_rotates angles, ?_, ?_, ?_, ?_⟩
  · exact ⟨_, Value.readYaw_toValue _, Mat3.coe_yaw_ofEuler, Mat3.coe_yaw_ofEuler_beyond,
      Mat3.yaw_ofEuler_upright⟩
  · intro f
    exact f.givenEuler_spatial angles
  · intro f hf
    rw [Mat3.aboutZ_pi_mul]
    exact ⟨Frame.ofEuler_euler hf angles, Frame.ofEuler_euler hf angles⟩
  · intro f v body
    exact Variant.pose_placed v (f.euler angles) body

/-- A body that is pitched by half a turn lies on its head and faces backwards. -/
theorem euler_angles_turn_bodies_pitched :
    let angles : Vec3 ℝ := ⟨0, Real.pi, Real.pi / 2⟩
    let body : Body ℝ := ⟨.volumetric, .null, .null, .null, .null, 0, 0⟩
    (∃ yaw, (Mat3.ofEuler angles).toValue.readYaw = .ok yaw ∧
      (yaw : Real.Angle) = (Real.pi / 2 : ℝ) + Real.pi) ∧
    (Mat3.ofEuler (Frame.euler ⟨true⟩ angles)).third = (Mat3.ofEuler angles).third ∧
    ∃ placed p,
      Variant.volumetric.place (.spatial Vec3.zero) (some (.spatial (Frame.euler ⟨true⟩ angles)))
        body = .ok placed ∧ Variant.volumetric.pose placed = .ok (p, false) := by
  intro angles body
  obtain ⟨-, -, ⟨yaw, hyaw, -, beyond, -⟩, -, turned, placing⟩ := euler_angles_turn_bodies angles
  obtain ⟨placed, upright, hplaced, hpose, hupright⟩ := placing ⟨true⟩ Vec3.zero body
  have low : ¬ 0.3 ≤ Real.cos angles.x * Real.cos angles.y := by
    norm_num [angles]
  obtain rfl := Bool.eq_false_iff.mpr (mt hupright.mp low)
  refine ⟨⟨yaw, hyaw, beyond (by simp [angles])⟩, ?_, placed, _, hplaced, hpose⟩
  rw [(turned ⟨true⟩ rfl).2]

end RobotSoccer
