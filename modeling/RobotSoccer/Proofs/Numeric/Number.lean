import Mathlib
import RobotSoccer.Proofs.Numeric.Exact
import RobotSoccer.Value.Arithmetic
import RobotSoccer.Value.Order

/-! Numbers in exact arithmetic, where an integer is a real number like any other. -/
namespace RobotSoccer

/-- The real number that a number is. -/
def Number.exactly : Number ℝ → ℝ
  | .int n => n
  | .real x => x

namespace Number

@[simp] theorem toReal_exactly (n : Number ℝ) : n.toReal = .ok n.exactly := by cases n <;> rfl

@[simp] theorem number_toValue (n : Number ℝ) : n.toValue.number = .ok n := by cases n <;> rfl

theorem compare?_exactly (m n : Number ℝ) : m.compare? n = some (cmp m.exactly n.exactly) := by
  cases m with
  | int m =>
    cases n with
    | int n =>
      simp only [compare?, exactly, Option.some.injEq]
      rw [← cmp_eq_compare]
      exact (Int.cast_strictMono.cmp_map_eq m n).symm
    | real y => simp [compare?, Scalar.compareInt?, exactly, cmp_swap]
  | real x => cases n <;> rfl

theorem lt?_toValue (m n : Number ℝ) :
    m.toValue.lt? n.toValue = .ok (decide (m.exactly < n.exactly)) := by
  have order : m.toValue.order? n.toValue = .ok (m.compare? n) := by
    cases m <;> cases n <;> simp [Value.order?, toValue, Value.number?]
  rw [Value.lt?, order, compare?_exactly]
  simp only [Except.map, Except.ok.injEq]
  rw [Bool.eq_iff_iff, decide_eq_true_eq]
  simp [cmp_eq_lt_iff]

theorem same_toValue (m n : Number ℝ) :
    m.toValue.same n.toValue = .ok (decide (m.exactly = n.exactly)) := by
  have plain : m.toValue.same n.toValue = .ok (m.compare? n == some .eq) := by
    cases m <;> cases n <;> simp [Value.same, Value.samePlain, toValue, Value.number?]
  rw [plain, compare?_exactly, Except.ok.injEq, Bool.eq_iff_iff, decide_eq_true_eq]
  simp [cmp_eq_eq_iff]

/-- Arithmetic of numbers is exact where that of integers is a case of that of reals. -/
theorem combine_exactly {onInts : Int → Int → Int} {onReals : ℝ → ℝ → ℝ}
    (h : ∀ i j : Int, ((onInts i j : Int) : ℝ) = onReals i j) (m n : Number ℝ) :
    ∃ result, combine onInts onReals m n = .ok result ∧
      result.exactly = onReals m.exactly n.exactly := by
  cases m with
  | int i =>
    cases n with
    | int j => exact ⟨.int (onInts i j), rfl, h i j⟩
    | real y => exact ⟨.real (onReals i y), rfl, rfl⟩
  | real x =>
    cases n with
    | int j => exact ⟨.real (onReals x j), rfl, rfl⟩
    | real y => exact ⟨.real (onReals x y), rfl, rfl⟩

theorem sub_exactly (m n : Number ℝ) :
    ∃ difference, m.sub n = .ok difference ∧ difference.exactly = m.exactly - n.exactly :=
  combine_exactly Int.cast_sub m n

theorem mul_toValue (m n : Number ℝ) :
    ∃ product : Number ℝ, m.toValue.mul n.toValue = .ok product.toValue ∧
      product.exactly = m.exactly * n.exactly := by
  obtain ⟨product, hproduct, hexact⟩ := combine_exactly Int.cast_mul m n
  refine ⟨product, ?_, hexact⟩
  have plain : m.toValue.mul n.toValue = (do
      return (← combine (· * ·) (· * ·) (← m.toValue.number) (← n.toValue.number)).toValue) := by
    cases m <;> cases n <;> rfl
  rw [plain, number_toValue, number_toValue]
  change (do return (← combine (· * ·) (· * ·) m n).toValue) = _
  rw [hproduct]
  rfl

end Number
end RobotSoccer
