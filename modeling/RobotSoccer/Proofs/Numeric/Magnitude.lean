import Mathlib.Algebra.Order.Field.Power
import Mathlib.Data.Rat.Floor
import Mathlib.Tactic.Positivity
import RobotSoccer.Numeric.Scalar

/-! What rounding does not do: it gives no sign to what has none, and it lets nothing vanish that is
at least one. -/
namespace RobotSoccer

theorem two_zpow_binaryExponent_le {q : Rat} (h : 0 < q) : (2 : Rat) ^ binaryExponent q ≤ q := by
  unfold binaryExponent
  dsimp only
  split
  · assumption
  · have hnum : (q.num.natAbs : Rat) = q.num := by
      rw [← Int.cast_natCast, Int.natAbs_of_nonneg (Rat.num_pos.mpr h).le]
    have num : (2 : Rat) ^ Nat.log2 q.num.natAbs ≤ q.num.natAbs := by
      have positive : q.num.natAbs ≠ 0 := Int.natAbs_ne_zero.mpr (Rat.num_pos.mpr h).ne'
      exact_mod_cast Nat.log2_self_le positive
    have den : (q.den : Rat) ≤ 2 ^ (Nat.log2 q.den + 1) := by
      exact_mod_cast (Nat.lt_log2_self (n := q.den)).le
    have positive : (0 : Rat) < q.den := by exact_mod_cast q.den_pos
    calc (2 : Rat) ^ ((Nat.log2 q.num.natAbs : Int) - Nat.log2 q.den - 1)
        = 2 ^ Nat.log2 q.num.natAbs / 2 ^ (Nat.log2 q.den + 1) := by
          rw [sub_sub, zpow_sub₀ (by norm_num), zpow_natCast]
          norm_cast
      _ ≤ q.num.natAbs / q.den := by gcongr
      _ = q := by rw [hnum, Rat.num_div_den]

theorem le_nearestEven {q : Rat} {n : Int} (h : (n : Rat) ≤ q) : n ≤ nearestEven q := by
  have low : n ≤ q.floor := Rat.le_floor_iff.mpr h
  unfold nearestEven
  dsimp only
  split_ifs <;> omega

namespace Double

variable {x y : Double}

theorem isNegative_ofParts (s : Bool) (m : Nat) (e : Int) : (ofParts s m e).isNegative = s := by
  unfold ofParts
  split_ifs <;> rfl

theorem isNegative_round {q : Rat} (h : 0 ≤ q) : (round q false).isNegative = false := by
  unfold round
  split
  · rfl
  · rw [isNegative_ofParts]
    exact decide_eq_false (not_lt.mpr h)

theorem toRat_nonneg (h : x.isNegative = false) : 0 ≤ x.toRat := by
  cases x with
  | nan => exact le_rfl
  | infinite s => exact le_rfl
  | finite s m e k =>
    obtain rfl : s = false := h
    simp only [toRat, Bool.false_eq_true, if_false]
    positivity

theorem isNegative_mul (hx : x.isNegative = false) (hy : y.isNegative = false) :
    (x * y).isNegative = false := by
  have product := isNegative_round (mul_nonneg (toRat_nonneg hx) (toRat_nonneg hy))
  change (mul x y).isNegative = false
  cases x with
  | nan => rfl
  | infinite s =>
    obtain rfl : s = false := hx
    cases y with
    | nan => rfl
    | infinite t =>
      obtain rfl : t = false := hy
      rfl
    | finite t n f l =>
      obtain rfl : t = false := hy
      unfold mul
      dsimp only
      split_ifs <;> rfl
  | finite s m e k =>
    obtain rfl : s = false := hx
    cases y with
    | nan => rfl
    | infinite t =>
      obtain rfl : t = false := hy
      unfold mul
      dsimp only
      split_ifs <;> rfl
    | finite t n f l =>
      obtain rfl : t = false := hy
      exact product

theorem isNegative_div (hx : x.isNegative = false) (hy : y.isNegative = false) :
    (x / y).isNegative = false := by
  have quotient := isNegative_round (div_nonneg (toRat_nonneg hx) (toRat_nonneg hy))
  change (div x y).isNegative = false
  cases x with
  | nan => rfl
  | infinite s =>
    obtain rfl : s = false := hx
    cases y <;> simp_all [div, isNegative]
  | finite s m e k =>
    obtain rfl : s = false := hx
    cases y with
    | nan => rfl
    | infinite t =>
      obtain rfl : t = false := hy
      rfl
    | finite t n f l =>
      obtain rfl : t = false := hy
      unfold div
      dsimp only
      split_ifs
      · rfl
      · rfl
      · exact quotient

theorem isZero_ofParts {m : Nat} (h : 2 ≤ m) (s : Bool) (e : Int) :
    (ofParts s m e).isZero = false := by
  unfold ofParts
  split_ifs
  · exact decide_eq_false (by omega)
  · exact decide_eq_false (by omega)
  · rfl

/-- What is at least one keeps a significand, at whatever exponent it is rounded. -/
theorem two_le_scaled {q : Rat} (h : 1 ≤ q) : (2 : Rat) ≤ q * 2 ^ (-roundingExponent q) := by
  have positive : (0 : Rat) < q := lt_of_lt_of_le one_pos h
  unfold roundingExponent
  rcases max_cases (-1074) (binaryExponent q - 52) with ⟨he, -⟩ | ⟨he, -⟩
  · rw [he]
    calc (2 : Rat) = 2 ^ (1 : Int) := (zpow_one 2).symm
      _ ≤ 2 ^ (-(-1074) : Int) := zpow_le_zpow_right₀ (by norm_num) (by norm_num)
      _ = 1 * 2 ^ (-(-1074) : Int) := (one_mul _).symm
      _ ≤ q * 2 ^ (-(-1074) : Int) := by gcongr
  · rw [he]
    calc (2 : Rat) ≤ 2 ^ (52 : Int) := by norm_num
      _ = 2 ^ binaryExponent q * 2 ^ (-(binaryExponent q - 52)) := by
        rw [← zpow_add₀ (by norm_num)]
        congr 1
        omega
      _ ≤ q * 2 ^ (-(binaryExponent q - 52)) := by
        gcongr
        exact two_zpow_binaryExponent_le positive

/-- What is at least one does not round to zero. -/
theorem isZero_round {q : Rat} (h : 1 ≤ q) (s : Bool) : (round q s).isZero = false := by
  have positive : (0 : Rat) < q := lt_of_lt_of_le one_pos h
  have magnitude : q.abs = q := Rat.abs_of_nonneg positive.le
  have scaled : (2 : Int) ≤ nearestEven (q * 2 ^ (-roundingExponent q)) :=
    le_nearestEven (two_le_scaled h)
  rw [round, if_neg positive.ne', magnitude]
  exact isZero_ofParts (by omega) _ _

theorem eq_round_of_ofInt {n : Int} (h : ofInt? n = some x) : x = round n false := by
  unfold ofInt? at h
  dsimp only at h
  split at h
  · exact (Option.some.inj h).symm
  · cases h

theorem isNegative_ofInt {n : Int} (h : 0 ≤ n) (hx : ofInt? n = some x) :
    x.isNegative = false := by
  rw [eq_round_of_ofInt hx]
  exact isNegative_round (by exact_mod_cast h)

theorem isZero_ofInt {n : Int} (h : 0 < n) (hx : ofInt? n = some x) : x.isZero = false := by
  rw [eq_round_of_ofInt hx]
  exact isZero_round (by exact_mod_cast h) false

end Double
end RobotSoccer
