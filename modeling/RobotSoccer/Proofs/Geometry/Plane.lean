import Mathlib
import RobotSoccer.Geometry.Vector
import RobotSoccer.Proofs.Numeric.Exact

/-! Vectors on the ground plane in exact arithmetic: turns add up and keep lengths, and they commute
with sums and with scaling. -/
namespace RobotSoccer.Vec2

@[ext] theorem ext {K : Type} {v w : Vec2 K} (hx : v.x = w.x) (hy : v.y = w.y) : v = w := by
  cases v
  cases w
  simp_all

variable (v w : Vec2 ℝ)

theorem zero_eq : (zero : Vec2 ℝ) = ⟨0, 0⟩ := by simp [zero]

theorem length_eq : v.length = Real.sqrt (v.x ^ 2 + v.y ^ 2) := rfl

theorem length_nonneg : 0 ≤ v.length := Real.sqrt_nonneg _

@[simp] theorem length_zero : (zero : Vec2 ℝ).length = 0 := by simp [zero_eq, length_eq]

theorem length_eq_zero_iff : v.length = 0 ↔ v = zero := by
  rw [length_eq, Real.sqrt_eq_zero (by positivity), zero_eq]
  constructor
  · intro h
    have hx : v.x ^ 2 = 0 := by nlinarith [sq_nonneg v.x, sq_nonneg v.y]
    have hy : v.y ^ 2 = 0 := by nlinarith [sq_nonneg v.x, sq_nonneg v.y]
    rw [sq_eq_zero_iff] at hx hy
    obtain ⟨x, y⟩ := v
    simp_all
  · rintro rfl
    simp

theorem rotate_eq (angle : ℝ) :
    v.rotate angle = ⟨v.x * Real.cos angle - v.y * Real.sin angle,
      v.x * Real.sin angle + v.y * Real.cos angle⟩ := rfl

@[simp] theorem add_x : (v + w).x = v.x + w.x := rfl

@[simp] theorem add_y : (v + w).y = v.y + w.y := rfl

@[simp] theorem neg_x : (-v).x = -v.x := rfl

@[simp] theorem neg_y : (-v).y = -v.y := rfl

theorem scale_eq (s : ℝ) : v.scale s = ⟨v.x * s, v.y * s⟩ := rfl

@[simp] theorem rotate_zero : v.rotate 0 = v := by simp [rotate_eq]

@[simp] theorem zero_rotate (angle : ℝ) : (zero : Vec2 ℝ).rotate angle = zero := by
  simp [rotate_eq, zero_eq]

theorem rotate_rotate (a b : ℝ) : (v.rotate a).rotate b = v.rotate (a + b) := by
  simp only [rotate_eq, Real.cos_add, Real.sin_add, mk.injEq]
  constructor <;> ring

theorem rotate_add (angle : ℝ) : (v + w).rotate angle = v.rotate angle + w.rotate angle := by
  ext <;> simp only [rotate_eq, add_x, add_y] <;> ring

theorem rotate_neg (angle : ℝ) : (-v).rotate angle = -v.rotate angle := by
  ext <;> simp only [rotate_eq, neg_x, neg_y] <;> ring

/-- A turn does not depend on full turns. -/
theorem rotate_congr {a b : ℝ} (h : (a : Real.Angle) = b) : v.rotate a = v.rotate b := by
  have hcos : Real.cos a = Real.cos b := by rw [← Real.Angle.cos_coe, h, Real.Angle.cos_coe]
  have hsin : Real.sin a = Real.sin b := by rw [← Real.Angle.sin_coe, h, Real.Angle.sin_coe]
  rw [rotate_eq, rotate_eq, hcos, hsin]

@[simp] theorem rotate_pi : v.rotate Real.pi = -v := by
  ext <;> simp [rotate_eq]

@[simp] theorem scale_one : v.scale 1 = v := by simp [scale_eq]

theorem scale_scale (s t : ℝ) : (v.scale s).scale t = v.scale (s * t) := by
  simp only [scale_eq, mul_assoc]

theorem rotate_scale (s angle : ℝ) : (v.scale s).rotate angle = (v.rotate angle).scale s := by
  simp only [rotate_eq, scale_eq, mk.injEq]
  constructor <;> ring

@[simp] theorem length_rotate (angle : ℝ) : (v.rotate angle).length = v.length := by
  simp only [length_eq, rotate_eq]
  congr 1
  linear_combination (v.x ^ 2 + v.y ^ 2) * Real.cos_sq_add_sin_sq angle

theorem length_scale {s : ℝ} (hs : 0 ≤ s) : (v.scale s).length = v.length * s := by
  rw [length_eq, length_eq, scale_eq, ← Real.sqrt_sq hs, ← Real.sqrt_mul (by positivity),
    Real.sqrt_sq hs]
  congr 1
  ring

end RobotSoccer.Vec2
