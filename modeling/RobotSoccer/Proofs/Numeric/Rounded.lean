import RobotSoccer.Proofs.Numeric.Nearest
import RobotSoccer.Proofs.Numeric.Sign

/-! What rounding to a double keeps: the doubles themselves and the order, so that a result lies
between any two doubles that the exact one lies between. Its error is half a place at most. -/
namespace RobotSoccer.Double

variable {q d : Rat} {m : Nat} {e k : Int} {x y : Double}

theorem cast_leastFull : (leastFull : Rat) = 2 ^ (52 : Int) := by norm_num [leastFull]

theorem cast_two_leastFull : ((2 * leastFull : Nat) : Rat) = 2 ^ (53 : Int) := by
  norm_num [leastFull]

theorem mul_zpow_lt (h : m < 2 * leastFull) (e : Int) : (m : Rat) * 2 ^ e < 2 ^ (e + 53) := by
  rw [add_comm, zpow_add₀ (by norm_num), ← cast_two_leastFull]
  gcongr

theorem mul_zpow_le (h : m ≤ 2 * leastFull) (e : Int) : (m : Rat) * 2 ^ e ≤ 2 ^ (e + 53) := by
  rw [add_comm, zpow_add₀ (by norm_num), ← cast_two_leastFull]
  gcongr

theorem le_mul_zpow (h : leastFull ≤ m) (e : Int) : (2 : Rat) ^ (e + 52) ≤ m * 2 ^ e := by
  rw [add_comm, zpow_add₀ (by norm_num), ← cast_leastFull]
  gcongr

/-- The greatest power of two that no double reaches. -/
abbrev tooLarge : Rat := 2 ^ (1024 : Int)

theorem zpow_le_tooLarge (h : e ≤ 1024) : (2 : Rat) ^ e ≤ tooLarge :=
  zpow_le_zpow_right₀ one_le_two h

theorem tooLarge_le_zpow (h : 1024 ≤ e) : tooLarge ≤ (2 : Rat) ^ e :=
  zpow_le_zpow_right₀ one_le_two h

/-- The parts that rounding finds: a significand that is full, or one at the least exponent. -/
structure Rounded (m : Nat) (e : Int) : Prop where
  le : m ≤ 2 * leastFull
  least : -1074 ≤ e
  full : leastFull ≤ m ∨ e = -1074

theorem Rounded.exponent_le (h : Rounded m e) (hlt : (m : Rat) * 2 ^ e < tooLarge) : e ≤ 971 := by
  by_contra! he
  rcases h.full with hm | hm
  · have := (tooLarge_le_zpow (by omega)).trans (le_mul_zpow hm e)
    linarith
  · omega

theorem isFinite_ofParts_iff (h : Rounded m e) :
    (ofParts false m e).isFinite = true ↔ (m : Rat) * 2 ^ e < tooLarge := by
  constructor
  · intro hfinite
    unfold ofParts at hfinite
    split_ifs at hfinite with hc hc'
    · obtain ⟨hm, -, he, -⟩ := hc
      exact (mul_zpow_lt hm e).trans_le (zpow_le_tooLarge (by omega))
    · obtain ⟨-, -, he, -⟩ := hc'
      exact (mul_zpow_le h.le e).trans_lt
        (zpow_lt_zpow_right₀ one_lt_two (by omega))
    · cases hfinite
  · intro hlt
    have he := h.exponent_le hlt
    unfold ofParts
    split_ifs with hc hc'
    · rfl
    · rfl
    · exfalso
      -- a significand that is one too long has a place less and fits then
      rcases h.le.eq_or_lt with hm | hm
      · have hm' : leastFull ≤ m / 2 := by omega
        have hlt' : (2 : Rat) ^ (e + 53) < tooLarge := by
          rwa [add_comm, zpow_add₀ (by norm_num), ← cast_two_leastFull, ← hm]
        have := (zpow_lt_zpow_iff_right₀ (one_lt_two (α := Rat))).mp hlt'
        have := h.least
        exact hc' ⟨by unfold leastFull at *; omega, by omega, by omega, .inl hm'⟩
      · exact hc ⟨hm, h.least, he, h.full⟩

theorem toRat_ofParts (h : Rounded m e) (hlt : (m : Rat) * 2 ^ e < tooLarge) :
    (ofParts false m e).toRat = m * 2 ^ e := by
  have hfinite := (isFinite_ofParts_iff h).mpr hlt
  unfold ofParts at hfinite ⊢
  split_ifs at hfinite ⊢ with hc hc'
  · simp [toRat]
  · have hm : m = 2 * (m / 2) := by
      have := h.le
      have : ¬ m < 2 * leastFull := fun hm => hc ⟨hm, h.least, h.exponent_le hlt, h.full⟩
      omega
    have hcast : (m : Rat) = 2 * (m / 2 : Nat) := by exact_mod_cast hm
    simp only [toRat, Bool.false_eq_true, if_false]
    rw [hcast, zpow_add₀ (by norm_num), zpow_one]
    ring
  · cases hfinite

/-- What a positive number is rounded to, were there no greatest double. -/
def rounded (q : Rat) : Rat :=
  (nearestEven (q * 2 ^ (-roundingExponent q))).toNat * 2 ^ roundingExponent q

theorem scaled_le_iff {n : Rat} : q * 2 ^ (-e) ≤ n ↔ q ≤ n * 2 ^ e := by
  rw [zpow_neg, ← div_eq_mul_inv, div_le_iff₀ (by positivity)]

theorem le_scaled_iff {n : Rat} : n ≤ q * 2 ^ (-e) ↔ n * 2 ^ e ≤ q := by
  rw [zpow_neg, ← div_eq_mul_inv, le_div_iff₀ (by positivity)]

theorem least_le_roundingExponent (q : Rat) : -1074 ≤ roundingExponent q := le_max_left _ _

theorem roundingExponent_le_iff (h : 0 < q) (hk : -1074 ≤ k) :
    roundingExponent q ≤ k ↔ q < 2 ^ (k + 53) := by
  rw [← binaryExponent_lt_iff h, roundingExponent]
  omega

/-- Above the least exponent the number fills its significand. -/
theorem zpow_le_of_roundingExponent (h : 0 < q) (he : roundingExponent q ≠ -1074) :
    (2 : Rat) ^ (roundingExponent q + 52) ≤ q := by
  rw [← le_binaryExponent_iff h]
  unfold roundingExponent at he ⊢
  omega

theorem nearestEven_scaled_nonneg (h : 0 < q) (e : Int) : 0 ≤ nearestEven (q * 2 ^ (-e)) :=
  le_nearestEven (by push_cast; positivity)

theorem Rounded.round (h : 0 < q) :
    Rounded (nearestEven (q * 2 ^ (-roundingExponent q))).toNat (roundingExponent q) := by
  have nonneg := nearestEven_scaled_nonneg h (roundingExponent q)
  refine ⟨?_, least_le_roundingExponent q, ?_⟩
  · have high : q < 2 ^ (roundingExponent q + 53) :=
      (roundingExponent_le_iff h (least_le_roundingExponent q)).mp le_rfl
    rw [add_comm, zpow_add₀ (by norm_num), ← cast_two_leastFull] at high
    have : nearestEven (q * 2 ^ (-roundingExponent q)) ≤ (2 * leastFull : Nat) := by
      apply nearestEven_le
      rw [scaled_le_iff, Int.cast_natCast]
      exact high.le
    omega
  · by_cases he : roundingExponent q = -1074
    · exact .inr he
    · have low := zpow_le_of_roundingExponent h he
      rw [add_comm, zpow_add₀ (by norm_num), ← cast_leastFull] at low
      have : (leastFull : Int) ≤ nearestEven (q * 2 ^ (-roundingExponent q)) := by
        apply le_nearestEven
        rw [le_scaled_iff, Int.cast_natCast]
        exact low
      exact .inl (by omega)

theorem round_of_pos (h : 0 < q) (s : Bool) :
    round q s =
      ofParts false (nearestEven (q * 2 ^ (-roundingExponent q))).toNat (roundingExponent q) := by
  rw [round, if_neg h.ne', Rat.abs_of_nonneg h.le]
  simp only [not_lt.mpr h.le, decide_false]

theorem isFinite_round_iff (h : 0 < q) (s : Bool) :
    (round q s).isFinite = true ↔ rounded q < tooLarge := by
  rw [round_of_pos h, isFinite_ofParts_iff (.round h), rounded]

theorem toRat_round (h : 0 < q) (s : Bool) (hlt : rounded q < tooLarge) :
    (round q s).toRat = rounded q := by
  rw [round_of_pos h, toRat_ofParts (.round h) hlt, rounded]

theorem abs_rounded_sub_le (h : 0 < q) : |rounded q - q| ≤ 2 ^ roundingExponent q / 2 := by
  have cast : (((nearestEven (q * 2 ^ (-roundingExponent q))).toNat : Int) : Rat) =
      nearestEven (q * 2 ^ (-roundingExponent q)) := by
    rw [Int.toNat_of_nonneg (nearestEven_scaled_nonneg h _)]
  have scale : q * 2 ^ (-roundingExponent q) * 2 ^ roundingExponent q = q := by
    rw [mul_assoc, ← zpow_add₀ (by norm_num), neg_add_cancel, zpow_zero, mul_one]
  have error : rounded q - q =
      (nearestEven (q * 2 ^ (-roundingExponent q)) - q * 2 ^ (-roundingExponent q)) *
        2 ^ roundingExponent q := by
    rw [sub_mul, scale, ← cast, Int.cast_natCast, rounded]
  rw [error, abs_mul, abs_of_pos (show (0 : Rat) < 2 ^ roundingExponent q by positivity),
    div_eq_inv_mul, ← one_div]
  gcongr
  exact abs_nearestEven_sub_le _

/-- A multiple of a power of two as the doubles that are not negative have them, of any size. -/
def OnGrid (d : Rat) : Prop :=
  ∃ (m : Nat) (e : Int), m < 2 * leastFull ∧ -1074 ≤ e ∧ d = m * 2 ^ e

/-- A number on the grid is a whole multiple of a place, or it does not reach that place's full
significands. -/
theorem OnGrid.multiple_or_lt (h : OnGrid d) (e : Int) :
    (∃ k : Nat, d = k * 2 ^ e) ∨ d < 2 ^ (e + 52) ∧ -1074 < e := by
  obtain ⟨m, f, hm, hf, rfl⟩ := h
  rcases le_or_gt e f with he | he
  · refine .inl ⟨m * 2 ^ (f - e).toNat, ?_⟩
    push_cast
    rw [mul_assoc, ← zpow_natCast, ← zpow_add₀ (by norm_num)]
    congr 2
    omega
  · refine .inr ⟨(mul_zpow_lt hm f).trans_le (zpow_le_zpow_right₀ one_le_two (by omega)), ?_⟩
    omega

theorem rounded_le (h : 0 < q) (hd : OnGrid d) (hq : q ≤ d) : rounded q ≤ d := by
  rcases hd.multiple_or_lt (roundingExponent q) with ⟨k, rfl⟩ | ⟨hlt, he⟩
  · have : nearestEven (q * 2 ^ (-roundingExponent q)) ≤ k :=
      nearestEven_le (by exact_mod_cast scaled_le_iff.mpr hq)
    have : (nearestEven (q * 2 ^ (-roundingExponent q))).toNat ≤ k := by omega
    unfold rounded
    gcongr
  · have := zpow_le_of_roundingExponent h he.ne'
    linarith

theorem le_rounded (h : 0 < q) (hd : OnGrid d) (hq : d ≤ q) : d ≤ rounded q := by
  rcases hd.multiple_or_lt (roundingExponent q) with ⟨k, rfl⟩ | ⟨hlt, he⟩
  · have : k ≤ nearestEven (q * 2 ^ (-roundingExponent q)) :=
      le_nearestEven (by exact_mod_cast le_scaled_iff.mpr hq)
    have : k ≤ (nearestEven (q * 2 ^ (-roundingExponent q))).toNat := by omega
    unfold rounded
    gcongr
  · rcases (Rounded.round h).full with hm | hm
    · exact hlt.le.trans (le_mul_zpow hm _)
    · omega

theorem rounded_nonneg (q : Rat) : 0 ≤ rounded q := by
  unfold rounded
  positivity

theorem rounded_of_onGrid (h : 0 < q) (hq : OnGrid q) : rounded q = q :=
  le_antisymm (rounded_le h hq le_rfl) (le_rounded h hq le_rfl)

end RobotSoccer.Double
