import Mathlib
import RobotSoccer.Numeric.Scalar

/-! Exact arithmetic: the real numbers as the numbers of the geometry. Nothing is rounded, no number
is too large, and there is one zero. -/
namespace RobotSoccer

/-- The number of a decimal numeral; the other numerals stand for no real number. -/
noncomputable def Numeral.exactly : Numeral → ℝ
  | .decimal negative digits exponent =>
    if negative then -(digits * 10 ^ exponent) else digits * 10 ^ exponent
  | _ => 0

noncomputable instance : Scalar ℝ where
  ofInt? n := some n
  ofNumeral := Numeral.exactly
  compare? x y := some (cmp x y)
  compareInt? x n := some (cmp x n)
  isNaN _ := false
  isNegative x := decide (x < 0)
  truncate? x := some (if x < 0 then ⌈x⌉ else ⌊x⌋)
  mod x y := x - y * ⌊x / y⌋
  sqrt := Real.sqrt
  hypot x y := Real.sqrt (x ^ 2 + y ^ 2)
  sin := Real.sin
  cos := Real.cos
  atan2 y x := Complex.arg ⟨x, y⟩
  pi := Real.pi
  half := id
  text _ := ""
  alignedTexts xs := xs.map fun _ => ""

namespace Exact

/-- A literal stands for its decimal fraction. -/
theorem literal (m e : ℕ) : (OfScientific.ofScientific m true e : ℝ) = m / 10 ^ e := by
  have h := NNRatCast.ofScientific_eq_ite (K := ℝ) m true e
  rw [if_pos rfl, NNRat.cast_divNat] at h
  simpa using h

@[simp] theorem literal_zero : (0.0 : ℝ) = 0 := by norm_num [literal]

@[simp] theorem literal_one : (1.0 : ℝ) = 1 := by norm_num [literal]

@[simp] theorem literal_two : (2.0 : ℝ) = 2 := by norm_num [literal]

theorem lt_iff {x y : ℝ} : Scalar.lt x y = true ↔ x < y := by
  simp [Scalar.lt, Scalar.compare?, cmp_eq_lt_iff]

theorem eq_iff {x y : ℝ} : Scalar.eq x y = true ↔ x = y := by
  simp [Scalar.eq, Scalar.compare?, cmp_eq_eq_iff]

theorem le_iff {x y : ℝ} : Scalar.le x y = true ↔ x ≤ y := by
  rw [Scalar.le, Bool.or_eq_true, lt_iff, eq_iff, le_iff_lt_or_eq]

end Exact
end RobotSoccer
