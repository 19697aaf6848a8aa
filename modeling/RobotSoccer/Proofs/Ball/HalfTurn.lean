import RobotSoccer.Proofs.Ball.Likeness
import RobotSoccer.Proofs.Numeric.Sign

/-! Two models that are fed the two sides of one field: their positions are turned by half a turn,
and so are their velocities, up to the sign of zeros. -/
namespace RobotSoccer.Ball

open Double

theorem alike_neg_rate (x y : Double) {c : Double} (hc : Scalar.isZero c = false) :
    Alike ((-x - -y) * 1000.0 / c) (-((x - y) * 1000.0 / c)) := by
  have finite : (1000.0 : Double).isFinite = true := by decide +kernel
  rw [scalar_isZero] at hc
  have difference := ((alike_neg_sub x y).mul_finite finite).div hc
  have product := (alike_neg_mul (x - y) 1000.0).div hc
  exact (difference.trans product).trans (alike_neg_div _ hc)

/-- The same vector after half a turn about the z-axis. -/
structure HalfTurned (v w : Vec3 Double) : Prop where
  x : Alike v.x (-w.x)
  y : Alike v.y (-w.y)
  z : Alike v.z w.z

theorem HalfTurned.isLevelZero {v w : Vec3 Double} (h : HalfTurned v w) :
    v.isLevelZero = w.isLevelZero := by
  rw [Vec3.isLevelZero, Vec3.isLevelZero, h.x.isZero, h.y.isZero, isZero_neg, isZero_neg]

theorem velocityOver_halfTurned (p q : Vec3 Double) (elapsed : Number Double) :
    Agree HalfTurned
      (Model.velocityOver (⟨-p.x, -p.y, p.z⟩ - ⟨-q.x, -q.y, q.z⟩ : Vec3 Double) elapsed)
      (Model.velocityOver (p - q) elapsed) := by
  refine .bind_same fun c => ?_
  cases hc : Scalar.isZero c with
  | true =>
    simp only [Vec3.divide, Scalar.divide, hc, if_true]
    exact .error _
  | false =>
    simp only [Vec3.divide, Scalar.divide, hc]
    exact .ok ⟨alike_neg_rate p.x q.x hc, alike_neg_rate p.y q.y hc, alike_refl _⟩

/-- The model of the turned observer and that of the other one. Their angles are drawn apart. -/
def halfTurn : Likeness Double where
  position p p' := p = ⟨-p'.x, -p'.y, p'.z⟩
  velocity := HalfTurned
  angle _ _ := True
  rest := ⟨Or.inl (by decide +kernel), Or.inl (by decide +kernel), alike_refl _⟩
  straight := trivial
  rolls h := h.isLevelZero
  between := by
    rintro p p' q q' rfl rfl elapsed
    exact velocityOver_halfTurned p' q' elapsed

end RobotSoccer.Ball
