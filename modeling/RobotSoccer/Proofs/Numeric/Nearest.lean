import Mathlib.Tactic.Linarith
import Mathlib.Tactic.NormNum
import Mathlib.Tactic.Ring
import RobotSoccer.Numeric.Double.Root
import RobotSoccer.Proofs.Numeric.Magnitude

/-! Nearest integers, nearest roots, and the powers of two around a number: each of them keeps the
order, and each number that is one already is kept. -/
namespace RobotSoccer

variable {q r : Rat}

theorem lt_two_zpow_binaryExponent (h : 0 < q) : q < (2 : Rat) ^ (binaryExponent q + 1) := by
  unfold binaryExponent
  dsimp only
  split_ifs with hk
  · have hnum : (q.num.natAbs : Rat) = q.num := by
      rw [← Int.cast_natCast, Int.natAbs_of_nonneg (Rat.num_pos.mpr h).le]
    have num : (q.num.natAbs : Rat) < 2 ^ (Nat.log2 q.num.natAbs + 1) := by
      exact_mod_cast Nat.lt_log2_self (n := q.num.natAbs)
    have den : (2 : Rat) ^ Nat.log2 q.den ≤ q.den := by
      exact_mod_cast Nat.log2_self_le q.den_nz
    calc q = q.num.natAbs / q.den := by rw [hnum, Rat.num_div_den]
      _ < 2 ^ (Nat.log2 q.num.natAbs + 1) / 2 ^ Nat.log2 q.den :=
        div_lt_div₀ num den (by positivity) (by positivity)
      _ = 2 ^ ((Nat.log2 q.num.natAbs : Int) - Nat.log2 q.den + 1) := by
        rw [sub_add_eq_add_sub, zpow_sub₀ (by norm_num), zpow_natCast]
        norm_cast
  · rw [sub_add_cancel]
    exact not_le.mp hk

theorem le_binaryExponent_iff (h : 0 < q) {k : Int} :
    k ≤ binaryExponent q ↔ (2 : Rat) ^ k ≤ q := by
  constructor
  · intro hk
    exact (zpow_le_zpow_right₀ one_le_two hk).trans (two_zpow_binaryExponent_le h)
  · intro hk
    have hlt := hk.trans_lt (lt_two_zpow_binaryExponent h)
    have := (zpow_lt_zpow_iff_right₀ (one_lt_two (α := Rat))).mp hlt
    omega

theorem binaryExponent_lt_iff (h : 0 < q) {k : Int} :
    binaryExponent q < k ↔ q < (2 : Rat) ^ k := by
  rw [← not_le, le_binaryExponent_iff h, not_le]

theorem binaryExponent_mono (h : 0 < q) (hr : q ≤ r) : binaryExponent q ≤ binaryExponent r :=
  (le_binaryExponent_iff (h.trans_le hr)).mpr ((two_zpow_binaryExponent_le h).trans hr)

section

variable {n : Int}

theorem nearestEven_le_floor_succ (q : Rat) : nearestEven q ≤ q.floor + 1 := by
  unfold nearestEven
  dsimp only
  split_ifs <;> omega

theorem nearestEven_le (h : q ≤ n) : nearestEven q ≤ n := by
  have low : (q.floor : Rat) ≤ q := Rat.le_floor_iff.mp le_rfl
  rcases (show q.floor ≤ n by exact_mod_cast low.trans h).eq_or_lt with hn | hn
  · have rest : q - q.floor < 1 / 2 := by
      rw [hn]
      linarith
    unfold nearestEven
    dsimp only
    rw [if_pos rest, hn]
  · have := nearestEven_le_floor_succ q
    omega

theorem abs_nearestEven_sub_le (q : Rat) : |(nearestEven q : Rat) - q| ≤ 1 / 2 := by
  have low : (q.floor : Rat) ≤ q := Rat.le_floor_iff.mp le_rfl
  have high : q < q.floor + 1 := sub_lt_iff_lt_add.mp Rat.lt_floor
  unfold nearestEven
  dsimp only
  split_ifs with hbelow habove
  · rw [abs_le]
    constructor <;> linarith
  · push_cast
    rw [abs_le]
    constructor <;> linarith
  · rcases Int.emod_two_eq_zero_or_one q.floor with h | h <;> rw [h, abs_le] <;> push_cast <;>
      constructor <;> linarith

end

section

variable {n : Nat}

/-- The floor of a root, squared, is below the number, and the next one is above. -/
theorem rootFloor_bounds (h : 0 ≤ q) :
    (squareRootFloor q.floor.toNat * squareRootFloor q.floor.toNat : Rat) ≤ q ∧
      q < (squareRootFloor q.floor.toNat + 1) * (squareRootFloor q.floor.toNat + 1) := by
  have nonneg : 0 ≤ q.floor := Rat.le_floor_iff.mpr (by exact_mod_cast h)
  have low : ((q.floor.toNat : Int) : Rat) ≤ q := by
    rw [Int.toNat_of_nonneg nonneg]
    exact Rat.le_floor_iff.mp le_rfl
  have high : q < ((q.floor.toNat : Int) : Rat) + 1 := by
    rw [Int.toNat_of_nonneg nonneg]
    exact sub_lt_iff_lt_add.mp Rat.lt_floor
  constructor
  · refine le_trans ?_ low
    exact_mod_cast squareRootFloor_le q.floor.toNat
  · refine high.trans_le ?_
    exact_mod_cast lt_squareRootFloor_succ q.floor.toNat

theorem rootFloor_le_nearestRoot (q : Rat) :
    squareRootFloor q.floor.toNat ≤ nearestRoot q := by
  unfold nearestRoot
  dsimp only
  split_ifs <;> omega

theorem nearestRoot_le_rootFloor_succ (q : Rat) :
    nearestRoot q ≤ squareRootFloor q.floor.toNat + 1 := by
  unfold nearestRoot
  dsimp only
  split_ifs <;> omega

theorem le_nearestRoot (h : (n * n : Rat) ≤ q) : n ≤ nearestRoot q := by
  obtain ⟨-, high⟩ := rootFloor_bounds (le_trans (by positivity) h)
  refine le_trans ?_ (rootFloor_le_nearestRoot q)
  have : n * n < (squareRootFloor q.floor.toNat + 1) * (squareRootFloor q.floor.toNat + 1) := by
    exact_mod_cast h.trans_lt high
  exact Nat.lt_succ_iff.mp (Nat.mul_self_lt_mul_self_iff.mp this)

theorem rootFloor_mono (h : 0 ≤ q) (hr : q ≤ r) :
    squareRootFloor q.floor.toNat ≤ squareRootFloor r.floor.toNat := by
  obtain ⟨low, -⟩ := rootFloor_bounds h
  obtain ⟨-, high⟩ := rootFloor_bounds (h.trans hr)
  have := (low.trans hr).trans_lt high
  exact Nat.lt_succ_iff.mp (Nat.mul_self_lt_mul_self_iff.mp (by exact_mod_cast this))

theorem nearestRoot_mono (h : 0 ≤ q) (hr : q ≤ r) : nearestRoot q ≤ nearestRoot r := by
  rcases (rootFloor_mono h hr).eq_or_lt with hf | hf
  · unfold nearestRoot
    dsimp only
    rw [hf]
    split_ifs <;> first | omega | linarith
  · have := nearestRoot_le_rootFloor_succ q
    have := rootFloor_le_nearestRoot r
    omega

theorem nearestRoot_le (h : 0 ≤ q) (hn : q ≤ (n * n : Rat)) : nearestRoot q ≤ n := by
  obtain ⟨low, -⟩ := rootFloor_bounds h
  have hle : squareRootFloor q.floor.toNat * squareRootFloor q.floor.toNat ≤ n * n := by
    exact_mod_cast low.trans hn
  rcases (Nat.mul_self_le_mul_self_iff.mp hle).eq_or_lt with hf | hf
  · have below : q < (n * n + n + 1 / 4 : Rat) := by
      have : (0 : Rat) ≤ n := by positivity
      linarith
    unfold nearestRoot
    dsimp only
    rw [hf, if_pos below]
  · have := nearestRoot_le_rootFloor_succ q
    omega

end

end RobotSoccer
