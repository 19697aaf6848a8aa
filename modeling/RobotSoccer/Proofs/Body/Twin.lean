import Mathlib
import RobotSoccer.Body.Motion
import RobotSoccer.Proofs.Ball.OnPlane
import RobotSoccer.Proofs.Geometry.Frame

/-! Twin bodies: one on the plane and one in space, at the same place over the ground and upright,
of one heading. What is done to both keeps them twins. -/
namespace RobotSoccer

/-- The value of a place (m) for a body. On the plane it has no height. -/
def Variant.placeValue : Variant → Vec3 ℝ → Value ℝ
  | planar, v => v.level.toValue
  | volumetric, v => v.toValue

/-- The value of a heading for a body that stands. -/
noncomputable def Variant.headingValue : Variant → ℝ → Value ℝ
  | planar, yaw => .real yaw
  | volumetric, yaw => (Mat3.aboutZ (.exact yaw)).toValue

/-- One pose, with the headings up to full turns. -/
structure Pose.Same (p q : Pose ℝ) : Prop where
  position : p.position = q.position
  rotation : (p.rotation : Real.Angle) = q.rotation

theorem Pose.Same.inFrame {p q : Pose ℝ} (h : p.Same q) (f : Frame) :
    (f.pose p).Same (f.pose q) := by
  rw [Frame.pose_eq, Frame.pose_eq]
  exact ⟨congrArg f.levelPosition h.position, f.heading_congr h.rotation⟩

namespace Body

structure Twin (b c : Body ℝ) : Prop where
  planar : b.variant = .planar
  name : b.name = c.name
  place : ∃ v, b.position = Variant.planar.placeValue v ∧
    c.position = Variant.volumetric.placeValue v
  heading : ∃ yaw, b.rotation = Variant.planar.headingValue yaw ∧
    c.rotation = Variant.volumetric.headingValue yaw
  velocity : ∃ v : Vec2 ℝ, b.velocity = v.toValue

variable {b c : Body ℝ}

theorem Twin.position (h : b.Twin c) : ∃ v : Vec3 ℝ,
    Variant.planar.position b = .ok ⟨v.x * 1000.0, v.y * 1000.0, 0.0 * 1000.0⟩ ∧
      Variant.volumetric.position c = .ok ⟨v.x * 1000.0, v.y * 1000.0, v.z * 1000.0⟩ := by
  obtain ⟨v, hb, hc⟩ := h.place
  refine ⟨v, ?_, ?_⟩
  · rw [Variant.position, Variant.rawPosition, hb]
    rfl
  · rw [Variant.position, Variant.rawPosition, hc]
    rfl

theorem Twin.ballPosition (h : b.Twin c) : ∃ p q, Variant.planar.ballPosition b = .ok p ∧
    Variant.volumetric.ballPosition c = .ok q ∧ Ball.SamePlace p q := by
  obtain ⟨v, hb, hc⟩ := h.position
  refine ⟨⟨v.x * 1000.0, v.y * 1000.0, 50.0⟩, ⟨v.x * 1000.0, v.y * 1000.0, v.z * 1000.0⟩, ?_, ?_,
    rfl, rfl, ?_⟩
  · rw [Variant.ballPosition, hb]
    rfl
  · rw [Variant.ballPosition, hc]
    rfl
  · change (50.0 : ℝ) = 50
    norm_num [Exact.literal]

theorem uprightCosine_le_one :
    (Value.real (uprightCosine : ℝ)).le? (.real 1.0) = .ok true := by
  change Except.ok (Scalar.le (0.3 : ℝ) 1.0) = .ok true
  rw [Except.ok.injEq, Exact.le_iff]
  norm_num [Exact.literal]

/-- Both stand upright in one pose. -/
theorem Twin.pose (h : b.Twin c) : ∃ p q, Variant.planar.pose b = .ok (p, true) ∧
    Variant.volumetric.pose c = .ok (q, true) ∧ p.Same q := by
  obtain ⟨v, hb, hc⟩ := h.position
  obtain ⟨yaw, hyaw, hmatrix⟩ := h.heading
  refine ⟨⟨yaw, ⟨v.x * 1000.0, v.y * 1000.0⟩⟩,
    ⟨(Mat3.aboutZ (.exact yaw)).yaw, ⟨v.x * 1000.0, v.y * 1000.0⟩⟩, ?_, ?_, rfl, ?_⟩
  · rw [Variant.pose, hyaw, Variant.levelPosition, hb]
    rfl
  · rw [Variant.pose, hmatrix, Variant.levelPosition, hc]
    change (do return (_, ← (Value.real (uprightCosine : ℝ)).le? (.real 1.0))) = _
    rw [uprightCosine_le_one]
    rfl
  · exact (coe_yaw_aboutZ yaw).symm

/-- A body is placed at a position (mm). A turn about the z-axis alone sets one heading. -/
theorem Twin.placed (h : b.Twin c) (v : Vec3 ℝ) (angle : ℝ) (turns : Bool) :
    let angles : Option (Coords ℝ) := if turns then some (.spatial ⟨0, 0, angle⟩) else none
    ∃ b' c', Variant.planar.place (.spatial v) angles b = .ok b' ∧
      Variant.volumetric.place (.spatial v) angles c = .ok c' ∧ b'.Twin c' := by
  let place : Vec3 ℝ :=
    ⟨v.x / millimetresPerMetre, v.y / millimetresPerMetre, v.z / millimetresPerMetre⟩
  cases turns with
  | false => exact ⟨_, _, rfl, rfl, h.planar, h.name, ⟨place, rfl, rfl⟩, h.heading, h.velocity⟩
  | true =>
    refine ⟨_, _, rfl, rfl, h.planar, h.name, ⟨place, rfl, rfl⟩, ⟨angle, rfl, ?_⟩, h.velocity⟩
    change (Mat3.ofEuler ⟨0, 0, angle⟩).toValue = (Mat3.aboutZ (.exact angle)).toValue
    rw [Mat3.ofEuler_level]

theorem Twin.stopped (h : b.Twin c) : b.stop.Twin c.stop := by
  refine ⟨h.planar, h.name, h.place, h.heading, ⟨Vec2.zero, ?_⟩⟩
  rw [Body.stop, h.planar]
  rfl

/-- The ball's path is bent on the plane only. -/
theorem Twin.bent (h : b.Twin c) (angle : ℝ) :
    ∃ b', Variant.planar.bendPath (.real angle) b = .ok b' ∧
      Variant.volumetric.bendPath (.real angle) c = .ok c ∧ b'.Twin c := by
  obtain ⟨v, hv⟩ := h.velocity
  refine ⟨{ b with velocity := (v.rotateBy (.exact angle)).toValue }, ?_, rfl, h.planar, h.name,
    h.place, h.heading, ⟨_, rfl⟩⟩
  rw [Variant.bendPath, levelVelocity, hv]
  rfl

theorem Twin.hostPlaced (h : b.Twin c) (v : Vec3 ℝ) :
    Twin { b with position := Variant.planar.placeValue v }
      { c with position := Variant.volumetric.placeValue v } :=
  ⟨h.planar, h.name, ⟨v, rfl, rfl⟩, h.heading, h.velocity⟩

theorem Twin.hostTurned (h : b.Twin c) (yaw : ℝ) :
    Twin { b with rotation := Variant.planar.headingValue yaw }
      { c with rotation := Variant.volumetric.headingValue yaw } :=
  ⟨h.planar, h.name, h.place, ⟨yaw, rfl, rfl⟩, h.velocity⟩

end Body

theorem Ball.SamePlace.inFrame {p q : Vec3 ℝ} (h : SamePlace p q) (f : Frame) :
    SamePlace (f.position p) (f.position q) := by
  obtain ⟨turned⟩ := f
  cases turned with
  | false => exact h
  | true => exact ⟨congrArg Neg.neg h.x, congrArg Neg.neg h.y, h.height⟩

end RobotSoccer
