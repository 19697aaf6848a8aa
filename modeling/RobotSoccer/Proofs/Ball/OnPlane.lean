import Mathlib
import RobotSoccer.Proofs.Ball.Likeness
import RobotSoccer.Proofs.Numeric.Exact

/-! Two models of one ball in exact arithmetic: one is fed the ball on the plane, which keeps one
height, the other one the ball in space. -/
namespace RobotSoccer.Ball

/-- The same place over the ground, on the plane at the height of a ball. -/
structure SamePlace (p q : Vec3 ℝ) : Prop where
  x : p.x = q.x
  y : p.y = q.y
  height : p.z = 50

/-- The same motion over the ground, on the plane without a vertical part. -/
structure SameMotion (v w : Vec3 ℝ) : Prop where
  x : v.x = w.x
  y : v.y = w.y
  vertical : v.z = 0

theorem SameMotion.isLevelZero {v w : Vec3 ℝ} (h : SameMotion v w) :
    v.isLevelZero = w.isLevelZero := by
  rw [Vec3.isLevelZero, Vec3.isLevelZero, h.x, h.y]

theorem velocityOver_sameMotion {p p' q q' : Vec3 ℝ} (hp : SamePlace p p') (hq : SamePlace q q')
    (elapsed : Number ℝ) :
    Agree SameMotion (Model.velocityOver (p - q) elapsed)
      (Model.velocityOver (p' - q') elapsed) := by
  refine .bind_same fun c => ?_
  cases hc : Scalar.isZero c with
  | true =>
    simp only [Vec3.divide, Scalar.divide, hc, if_true]
    exact .error _
  | false =>
    simp only [Vec3.divide, Scalar.divide, hc]
    refine .ok ⟨?_, ?_, ?_⟩
    · change (p.x - q.x) * _ / c = (p'.x - q'.x) * _ / c
      rw [hp.x, hq.x]
    · change (p.y - q.y) * _ / c = (p'.y - q'.y) * _ / c
      rw [hp.y, hq.y]
    · change (p.z - q.z) * _ / c = 0
      rw [hp.height, hq.height, sub_self, zero_mul, zero_div]

noncomputable def onPlane : Likeness ℝ where
  position := SamePlace
  velocity := SameMotion
  angle := Eq
  rest := ⟨rfl, rfl, Exact.literal_zero⟩
  straight := rfl
  rolls h := h.isLevelZero
  between := velocityOver_sameMotion

end RobotSoccer.Ball
