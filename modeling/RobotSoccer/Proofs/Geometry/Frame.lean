import Mathlib
import RobotSoccer.Frame
import RobotSoccer.Proofs.Geometry.Plane
import RobotSoccer.Proofs.Geometry.Turn
import RobotSoccer.Proofs.Numeric.Sign

/-! A change of frame: it takes each quantity apart alike, whichever way it is asked for, and twice it
leaves all as it is. Positions come back exactly, headings in exact arithmetic and up to full
turns. -/
namespace RobotSoccer.Frame

section

variable {K : Type} [Scalar K] (f : Frame)

theorem pose_eq (p : Pose K) : f.pose p = ⟨f.heading p.rotation, f.levelPosition p.position⟩ := by
  obtain ⟨turned⟩ := f
  cases turned <;> rfl

theorem position_level (v : Vec3 K) : (f.position v).level = f.levelPosition v.level := by
  obtain ⟨turned⟩ := f
  cases turned <;> rfl

theorem position_height (v : Vec3 K) : (f.position v).z = v.z := by
  obtain ⟨turned⟩ := f
  cases turned <;> rfl

theorem givenEuler_spatial (angles : Vec3 K) :
    f.givenEuler (.spatial angles) = .ok (.spatial (f.euler angles)) := by
  obtain ⟨turned⟩ := f
  cases turned <;> rfl

theorem givenHeading_real (angle : K) :
    f.givenHeading (.real angle) = .ok (.real (f.heading angle)) := by
  obtain ⟨turned⟩ := f
  cases turned <;> rfl

/-- The change of any quantity is that of its kind. -/
theorem apply_eq : (∀ v : Coords K, f.apply (.coords v) = .ok (.coords (f.coords v))) ∧
    ∀ p : Pose K, f.apply (.pose p.given) = .ok (.pose (f.pose p).given) := by
  refine ⟨fun v => rfl, fun p => ?_⟩
  rw [apply, givenPose_given]
  rfl

/-- A frame that is not turned changes nothing. -/
theorem unturned {f : Frame} (h : f.turned = false) (q : Quantity K) : f.apply q = .ok q := by
  obtain ⟨turned⟩ := f
  cases h
  cases q with
  | coords v => cases v <;> rfl
  | pose p => rfl
  | plain v => rfl

section

variable (negTwice : ∀ x : K, - -x = x)
include negTwice

theorem levelPosition_twice (v : Vec2 K) : f.levelPosition (f.levelPosition v) = v := by
  obtain ⟨turned⟩ := f
  cases turned with
  | false => rfl
  | true =>
    change (⟨- -v.x, - -v.y⟩ : Vec2 K) = v
    rw [negTwice, negTwice]

theorem position_twice (v : Vec3 K) : f.position (f.position v) = v := by
  obtain ⟨turned⟩ := f
  cases turned with
  | false => rfl
  | true =>
    change (⟨- -v.x, - -v.y, v.z⟩ : Vec3 K) = v
    rw [negTwice, negTwice]

theorem coords_twice (v : Coords K) : f.coords (f.coords v) = v := by
  cases v with
  | flat v => exact congrArg Coords.flat (f.levelPosition_twice negTwice v)
  | spatial v => exact congrArg Coords.spatial (f.position_twice negTwice v)

end

end

theorem heading_congr (f : Frame) {a b : ℝ} (h : (a : Real.Angle) = b) :
    ((f.heading a : ℝ) : Real.Angle) = f.heading b := by
  obtain ⟨turned⟩ := f
  cases turned with
  | false => exact h
  | true =>
    change ((oppositeHeading a : ℝ) : Real.Angle) = (oppositeHeading b : ℝ)
    rw [coe_oppositeHeading, coe_oppositeHeading, h]

theorem heading_twice (f : Frame) (angle : ℝ) :
    ((f.heading (f.heading angle) : ℝ) : Real.Angle) = angle := by
  obtain ⟨turned⟩ := f
  cases turned with
  | false => rfl
  | true =>
    change ((oppositeHeading (oppositeHeading angle) : ℝ) : Real.Angle) = angle
    rw [coe_oppositeHeading, coe_oppositeHeading, add_assoc, Real.Angle.coe_pi_add_coe_pi, add_zero]

/-- A turn by any angle is the same in both frames. -/
theorem rotate_levelPosition (f : Frame) (v : Vec2 ℝ) (angle : ℝ) :
    (f.levelPosition v).rotate angle = f.levelPosition (v.rotate angle) := by
  obtain ⟨turned⟩ := f
  cases turned with
  | false => rfl
  | true => exact v.rotate_neg angle

/-- On doubles so it is up to the signs of zeros. -/
theorem rotate_levelPosition_rounded (f : Frame) (v : Vec2 Double) (angle : Double) :
    Double.Alike ((f.levelPosition v).rotate angle).x (f.levelPosition (v.rotate angle)).x ∧
      Double.Alike ((f.levelPosition v).rotate angle).y (f.levelPosition (v.rotate angle)).y := by
  obtain ⟨turned⟩ := f
  cases turned with
  | false => exact ⟨Double.alike_refl _, Double.alike_refl _⟩
  | true =>
    have products (x y : Double) := Double.alike_neg_mul x y
    constructor
    · exact ((products _ _).sub (products _ _)).trans (Double.alike_neg_sub _ _)
    · exact ((products _ _).add (products _ _)).trans (Double.alike_neg_add _ _)

end RobotSoccer.Frame
