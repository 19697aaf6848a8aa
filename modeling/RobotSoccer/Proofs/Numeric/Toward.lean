import RobotSoccer.Proofs.Numeric.Arithmetic

/-! Doubles that are not below zero, the greater infinity included, and doubles on the way from a
number to zero. -/
namespace RobotSoccer.Double

variable {x y z : Double} {q : Rat}

theorem nonneg_iff :
    Scalar.le 0.0 x = true ↔ x = infinite false ∨ x.isFinite = true ∧ 0 ≤ x.toRat := by
  rw [literal_zero]
  cases x with
  | nan => simp [Scalar.le, Scalar.lt, Scalar.eq, Scalar.compare?, compare?, zero, isFinite]
  | infinite s =>
    cases s <;> simp [Scalar.le, Scalar.lt, Scalar.eq, Scalar.compare?, compare?, zero, isFinite]
  | finite s m e h =>
    rw [le_iff (isFinite_zero false) rfl, toRat_zero]
    simp [isFinite]

theorem nonneg_of_isNegative (h : x.isNegative = false) (hnan : x ≠ nan) :
    Scalar.le 0.0 x = true := by
  rw [nonneg_iff]
  cases x with
  | nan => exact absurd rfl hnan
  | infinite s =>
    obtain rfl : s = false := h
    exact .inl rfl
  | finite s m e k => exact .inr ⟨rfl, toRat_nonneg h⟩

theorem not_lt_zero_of_nonneg (h : Scalar.le 0.0 x = true) : Scalar.lt x 0.0 = false := by
  rcases nonneg_iff.mp h with rfl | ⟨hfinite, nonneg⟩
  · rfl
  · rw [← Bool.not_eq_true, literal_zero, lt_iff hfinite (isFinite_zero false), toRat_zero, not_lt]
    exact nonneg

theorem nonneg_of_zero_lt (h : Scalar.lt 0.0 x = true) : Scalar.le 0.0 x = true := by
  rw [Scalar.le, h, Bool.true_or]

theorem isNegative_of_pos (h : 0 < x.toRat) : x.isNegative = false := by
  cases x with
  | nan => rfl
  | infinite s => simp [toRat] at h
  | finite s m e k =>
    cases s with
    | false => rfl
    | true =>
      have : (0 : Rat) ≤ m * 2 ^ e := by positivity
      simp only [toRat, if_true, neg_mul] at h
      linarith

theorem isZero_iff (h : x.isFinite = true) : x.isZero = true ↔ x.toRat = 0 := by
  cases x <;> cases h
  rw [isZero_finite, decide_eq_true_iff]

theorem nonneg_of_isZero (h : x.isZero = true) : Scalar.le 0.0 x = true := by
  cases x with
  | nan => cases h
  | infinite s => cases h
  | finite s m e k => exact nonneg_iff.mpr (.inr ⟨rfl, ((isZero_iff rfl).mp h).ge⟩)

theorem not_isZero_of_zero_lt (h : Scalar.lt 0.0 x = true) : x.isZero = false := by
  rw [← Bool.not_eq_true]
  intro h0
  cases x with
  | nan => cases h0
  | infinite s => cases h0
  | finite s m e k =>
    rw [literal_zero, lt_iff (isFinite_zero false) rfl, toRat_zero] at h
    exact h.ne' ((isZero_iff rfl).mp h0)

theorem ofParts_ne_nan (s : Bool) (m : Nat) (e : Int) : ofParts s m e ≠ nan := by
  unfold ofParts
  split_ifs <;> exact Double.noConfusion

theorem nonneg_round (h : 0 ≤ q) (s : Bool) : Scalar.le 0.0 (round q s) = true := by
  rcases h.eq_or_lt with rfl | hq
  · rw [round_zero, nonneg_iff, toRat_zero]
    exact .inr ⟨rfl, le_rfl⟩
  · rw [round_of_pos hq]
    exact nonneg_of_isNegative (isNegative_ofParts _ _ _) (ofParts_ne_nan _ _ _)

theorem infinite_mul (hy : Scalar.le 0.0 y = true) :
    infinite false * y = if y.isZero then nan else infinite false := by
  rcases nonneg_iff.mp hy with rfl | ⟨hfinite, nonneg⟩
  · rfl
  · cases y with
    | nan => cases hfinite
    | infinite t => cases hfinite
    | finite t n f k =>
      change (if _ then nan else infinite (false != t)) = _
      by_cases h0 : (finite t n f k).isZero = true
      · rw [if_pos h0, if_pos h0]
      · rw [if_neg h0, if_neg h0]
        rw [isZero_iff rfl] at h0
        obtain rfl : t = false := isNegative_of_pos (lt_of_le_of_ne nonneg (Ne.symm h0))
        rfl

protected theorem mul_comm (x y : Double) : x * y = y * x := by
  cases x with
  | nan => cases y <;> rfl
  | infinite s =>
    cases y with
    | nan => rfl
    | infinite t => exact congrArg infinite (Bool.xor_comm s t)
    | finite t n f k =>
      change (if _ then nan else infinite (s ^^ t)) = if _ then nan else infinite (t ^^ s)
      rw [Bool.xor_comm]
  | finite s m e h =>
    cases y with
    | nan => rfl
    | infinite t =>
      change (if _ then nan else infinite (s ^^ t)) = if _ then nan else infinite (t ^^ s)
      rw [Bool.xor_comm]
    | finite t n f k =>
      change round (_ * _) (s ^^ t) = round (_ * _) (t ^^ s)
      rw [Bool.xor_comm, mul_comm]

theorem ne_nan_of_nonneg (h : Scalar.le 0.0 x = true) : x ≠ nan := by
  rintro rfl
  exact absurd h (by decide +kernel)

theorem infinite_mul_eq_nan_iff (hy : Scalar.le 0.0 y = true) :
    infinite false * y = nan ↔ y.isZero = true := by
  rw [infinite_mul hy]
  split_ifs with h <;> simp [h]

/-- Of numbers that are not below zero only zero and infinity have no product. -/
theorem mul_eq_nan_iff (hx : Scalar.le 0.0 x = true) (hy : Scalar.le 0.0 y = true) :
    x * y = nan ↔ x = infinite false ∧ y.isZero = true ∨ x.isZero = true ∧ y = infinite false := by
  rcases nonneg_iff.mp hx with rfl | ⟨hxf, hx0⟩
  · rw [infinite_mul_eq_nan_iff hy]
    simp [isZero]
  · have hx' : x ≠ infinite false := by
      rintro rfl
      cases hxf
    rcases nonneg_iff.mp hy with rfl | ⟨hyf, hy0⟩
    · rw [Double.mul_comm, infinite_mul_eq_nan_iff hx]
      simp [isZero]
    · have hy' : y ≠ infinite false := by
        rintro rfl
        cases hyf
      have := ne_nan_of_nonneg (nonneg_round (mul_nonneg hx0 hy0) (x.isNegative != y.isNegative))
      rw [mul_eq hxf hyf]
      simp [hx', hy', this]

theorem nonneg_infinite_mul (hy : Scalar.le 0.0 y = true) (h : infinite false * y ≠ nan) :
    Scalar.le 0.0 (infinite false * y) = true := by
  rw [infinite_mul hy] at h ⊢
  split_ifs at h ⊢
  · exact absurd rfl h
  · exact nonneg_iff.mpr (.inl rfl)

theorem nonneg_mul (hx : Scalar.le 0.0 x = true) (hy : Scalar.le 0.0 y = true)
    (h : x * y ≠ nan) : Scalar.le 0.0 (x * y) = true := by
  rcases nonneg_iff.mp hx with rfl | ⟨hxf, hx0⟩
  · exact nonneg_infinite_mul hy h
  · rcases nonneg_iff.mp hy with rfl | ⟨hyf, hy0⟩
    · rw [Double.mul_comm] at h ⊢
      exact nonneg_infinite_mul hx h
    · rw [mul_eq hxf hyf]
      exact nonneg_round (mul_nonneg hx0 hy0) _

theorem nonneg_div (hx : Scalar.le 0.0 x = true) (hy : y.isFinite = true) (h0 : 0 < y.toRat) :
    Scalar.le 0.0 (x / y) = true := by
  rcases nonneg_iff.mp hx with rfl | ⟨hfinite, nonneg⟩
  · have positive := isNegative_of_pos h0
    cases y <;> cases hy
    obtain rfl := positive
    rfl
  · rw [div_eq hfinite hy h0.ne']
    exact nonneg_round (div_nonneg nonneg h0.le) _

theorem sub_nan (x : Double) : x - nan = nan := by cases x <;> rfl

theorem mul_nan (x : Double) : x * nan = nan := by cases x <;> rfl

theorem sub_infinite (h : x.isFinite = true) : x - infinite false = infinite true := by
  cases x <;> cases h
  rfl

theorem compareInt?_zero (x : Double) : x.compareInt? 0 = x.compare? 0.0 := by
  rw [literal_zero]
  cases x with
  | nan => rfl
  | infinite s => rfl
  | finite s m e h =>
    have none : (zero false).toRat = ((0 : Int) : Rat) := toRat_zero false
    change some _ = some (if _ < (zero false).toRat then _ else
      if (zero false).toRat < _ then _ else _)
    rw [none]

theorem swap_compareInt?_zero (x : Double) :
    (x.compareInt? 0).map Ordering.swap = (0.0 : Double).compare? x := by
  rw [literal_zero]
  cases x with
  | nan => rfl
  | infinite s => cases s <;> rfl
  | finite s m e h =>
    have none : (zero false).toRat = ((0 : Int) : Rat) := toRat_zero false
    change (some (if _ then _ else _)).map Ordering.swap =
      some (if (zero false).toRat < _ then _ else if _ < (zero false).toRat then _ else _)
    rw [none]
    split_ifs with h1 h2
    · exact absurd h1 h2.not_gt
    · rfl
    · rfl
    · rfl

/-- From one number on the way to zero, which is not passed. -/
structure TowardZero (x y : Double) : Prop where
  finite : y.isFinite = true
  shorter : |y.toRat| ≤ |x.toRat|
  side : y.toRat = 0 ∨ 0 < x.toRat * y.toRat

namespace TowardZero

theorem refl (h : x.isFinite = true) : TowardZero x x := by
  refine ⟨h, le_rfl, ?_⟩
  rcases eq_or_ne x.toRat 0 with h0 | h0
  · exact .inl h0
  · exact .inr (mul_self_pos.mpr h0)

theorem trans (h : TowardZero x y) (h' : TowardZero y z) : TowardZero x z := by
  refine ⟨h'.finite, h'.shorter.trans h.shorter, ?_⟩
  rcases h'.side with hz | hz
  · exact .inl hz
  · have hy : y.toRat ≠ 0 := left_ne_zero_of_mul hz.ne'
    have hx := h.side.resolve_left hy
    have := mul_pos hx hz
    refine .inr (pos_of_mul_pos_left (b := y.toRat * y.toRat) ?_ (mul_self_nonneg _))
    linarith

theorem of_toRat_eq_zero (h : TowardZero x y) (hx : x.toRat = 0) : y.toRat = 0 := by
  have := h.shorter
  rwa [hx, abs_zero, abs_nonpos_iff] at this

theorem to_zero (x : Double) (s : Bool) : TowardZero x (zero s) :=
  ⟨rfl, by rw [toRat_zero, abs_zero]; exact abs_nonneg _, .inl (toRat_zero s)⟩

theorem of_nonneg (h : y.isFinite = true) (low : 0 ≤ y.toRat) (high : y.toRat ≤ x.toRat) :
    TowardZero x y := by
  refine ⟨h, abs_le_abs_of_nonneg low high, ?_⟩
  rcases low.eq_or_lt with h0 | h0
  · exact .inl h0.symm
  · exact .inr (mul_pos (h0.trans_le high) h0)

theorem of_nonpos (h : y.isFinite = true) (low : x.toRat ≤ y.toRat) (high : y.toRat ≤ 0) :
    TowardZero x y := by
  refine ⟨h, abs_le_abs_of_nonpos high low, ?_⟩
  rcases high.eq_or_lt with h0 | h0
  · exact .inl h0
  · exact .inr (mul_pos_of_neg_of_neg (low.trans_lt h0) h0)

/-- What is scaled by at most one is on the way to zero. -/
theorem mul (hx : x.isFinite = true) (hy : y.isFinite = true) (low : 0 ≤ y.toRat)
    (high : y.toRat ≤ 1) : TowardZero x (x * y) := by
  rw [mul_eq hx hy]
  rcases le_total 0 x.toRat with h | h
  · obtain ⟨hfinite, hlow, hhigh⟩ := round_between (q := x.toRat * y.toRat)
      (isFinite_zero false) hx (by rw [toRat_zero]; exact mul_nonneg h low)
      (mul_le_of_le_one_right h high) (x.isNegative != y.isNegative)
    exact of_nonneg hfinite (by rwa [toRat_zero] at hlow) hhigh
  · obtain ⟨hfinite, hlow, hhigh⟩ := round_between (q := x.toRat * y.toRat) hx
      (isFinite_zero false) (le_mul_of_le_one_right h high)
      (by rw [toRat_zero]; exact mul_nonpos_of_nonpos_of_nonneg h low)
      (x.isNegative != y.isNegative)
    exact of_nonpos hfinite hlow (by rwa [toRat_zero] at hhigh)

end TowardZero

end RobotSoccer.Double
