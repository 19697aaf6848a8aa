import RobotSoccer.Proofs.Numeric.Rounded

/-! Rounded square roots keep the order as far as they are finite: a vector with components that are
no larger has a length if the other one has. -/
namespace RobotSoccer.Double

variable {q r : Rat} {e : Int} {m : Nat} {x y x' y' : Double}

/-- The exponent at which a root is rounded. -/
def rootExponent (q : Rat) : Int := max (-1074) (binaryExponent q / 2 - 52)

theorem roundRoot_of_pos (h : 0 < q) :
    roundRoot q = ofParts false (nearestRoot (q * 4 ^ (-rootExponent q))) (rootExponent q) := by
  rw [roundRoot, if_neg h.ne', rootExponent]

theorem scaledRoot_le_iff : q * 4 ^ (-e) ≤ (m * m : Rat) ↔ q ≤ (m * 2 ^ e) * (m * 2 ^ e) := by
  have square : (4 : Rat) ^ e = 2 ^ e * 2 ^ e := by rw [← mul_zpow]; norm_num
  rw [zpow_neg, ← div_eq_mul_inv, div_le_iff₀ (by positivity), square, mul_mul_mul_comm]

theorem le_scaledRoot_iff : (m * m : Rat) ≤ q * 4 ^ (-e) ↔ (m * 2 ^ e) * (m * 2 ^ e) ≤ q := by
  have square : (4 : Rat) ^ e = 2 ^ e * 2 ^ e := by rw [← mul_zpow]; norm_num
  rw [zpow_neg, ← div_eq_mul_inv, le_div_iff₀ (by positivity), square, mul_mul_mul_comm]

theorem Rounded.roundRoot (h : 0 < q) :
    Rounded (nearestRoot (q * 4 ^ (-rootExponent q))) (rootExponent q) := by
  refine ⟨?_, le_max_left _ _, ?_⟩
  · apply nearestRoot_le (by positivity)
    rw [scaledRoot_le_iff, cast_two_leastFull, ← zpow_add₀ (by norm_num), ← zpow_add₀ (by norm_num)]
    refine ((binaryExponent_lt_iff h).mp ?_).le
    unfold rootExponent
    omega
  · by_cases he : rootExponent q = -1074
    · exact .inr he
    · refine .inl (le_nearestRoot ?_)
      rw [le_scaledRoot_iff, cast_leastFull, ← zpow_add₀ (by norm_num),
        ← zpow_add₀ (by norm_num), ← le_binaryExponent_iff h]
      unfold rootExponent at he ⊢
      omega

theorem isFinite_roundRoot_iff (h : 0 < q) : (roundRoot q).isFinite = true ↔
    (nearestRoot (q * 4 ^ (-rootExponent q)) : Rat) * 2 ^ rootExponent q < tooLarge := by
  rw [roundRoot_of_pos h, isFinite_ofParts_iff (.roundRoot h)]

theorem isFinite_roundRoot_mono (h : 0 ≤ q) (hr : q ≤ r) (hfinite : (roundRoot r).isFinite = true) :
    (roundRoot q).isFinite = true := by
  rcases h.eq_or_lt with rfl | hq
  · simp [roundRoot, zero, isFinite]
  rw [isFinite_roundRoot_iff (hq.trans_le hr)] at hfinite
  rw [isFinite_roundRoot_iff hq]
  refine lt_of_le_of_lt ?_ hfinite
  have exponent : rootExponent q ≤ rootExponent r := by
    have := binaryExponent_mono hq hr
    unfold rootExponent
    omega
  rcases exponent.eq_or_lt with he | he
  · rw [he]
    gcongr
    exact nearestRoot_mono (by positivity) (by gcongr)
  · -- a root with a greater exponent is full, which makes up for the places below it
    have hm : leastFull ≤ nearestRoot (r * 4 ^ (-rootExponent r)) :=
      (Rounded.roundRoot (hq.trans_le hr)).full.resolve_right
        ((le_max_left _ _).trans_lt he).ne'
    calc (nearestRoot (q * 4 ^ (-rootExponent q)) : Rat) * 2 ^ rootExponent q
      _ ≤ 2 ^ (rootExponent q + 53) := mul_zpow_le (Rounded.roundRoot hq).le _
      _ ≤ 2 ^ (rootExponent r + 52) := zpow_le_zpow_right₀ one_le_two (by omega)
      _ ≤ nearestRoot (r * 4 ^ (-rootExponent r)) * 2 ^ rootExponent r := le_mul_zpow hm _

theorem hypot_eq (hx : x.isFinite = true) (hy : y.isFinite = true) :
    hypot x y = roundRoot (x.toRat * x.toRat + y.toRat * y.toRat) := by
  cases x <;> cases hx
  cases y <;> cases hy
  rfl

/-- A vector that is no longer has a finite length too. -/
theorem isFinite_hypot_mono (hx' : x'.isFinite = true) (hy' : y'.isFinite = true)
    (hx : x.isFinite = true) (hy : y.isFinite = true) (lex : |x'.toRat| ≤ |x.toRat|)
    (ley : |y'.toRat| ≤ |y.toRat|) (h : (hypot x y).isFinite = true) :
    (hypot x' y').isFinite = true := by
  rw [hypot_eq hx hy] at h
  rw [hypot_eq hx' hy']
  refine isFinite_roundRoot_mono ?_ ?_ h
  · exact add_nonneg (mul_self_nonneg _) (mul_self_nonneg _)
  · exact add_le_add (abs_le_iff_mul_self_le.mp lex) (abs_le_iff_mul_self_le.mp ley)

theorem isNegative_roundRoot (q : Rat) : (roundRoot q).isNegative = false := by
  unfold roundRoot
  split_ifs
  · rfl
  · exact isNegative_ofParts _ _ _

theorem isNegative_hypot (x y : Double) : (hypot x y).isNegative = false := by
  cases x <;> cases y <;> first | rfl | exact isNegative_roundRoot _

end RobotSoccer.Double
