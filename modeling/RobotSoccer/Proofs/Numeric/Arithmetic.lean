import RobotSoccer.Proofs.Numeric.Rounded

/-! Arithmetic of finite doubles by their exact values. A result lies between two doubles if the
exact one does; a difference of doubles that are no more than twice as large as each other is
exact. -/
namespace RobotSoccer.Double

variable {x y l u : Double} {q a b : Rat} {s : Bool}

theorem abs_toRat_finite (s : Bool) {m : Nat} {e : Int} (h : Canonical m e) :
    |(finite s m e h).toRat| = m * 2 ^ e := by
  have nonneg : (0 : Rat) ≤ m * 2 ^ e := by positivity
  cases s <;> simp [toRat, abs_of_nonneg nonneg]

theorem onGrid_abs (h : x.isFinite = true) : OnGrid |x.toRat| := by
  cases x with
  | nan => cases h
  | infinite s => cases h
  | finite s m e hc => exact ⟨m, e, hc.1, hc.2.1, abs_toRat_finite s hc⟩

/-- No finite double reaches the last place below the power of two that is too large. -/
theorem abs_toRat_le (h : x.isFinite = true) : |x.toRat| ≤ tooLarge - 2 ^ (971 : Int) := by
  cases x with
  | nan => cases h
  | infinite s => cases h
  | finite s m e hc =>
    obtain ⟨hm, -, he, -⟩ := id hc
    have full : (m : Rat) ≤ 2 ^ (53 : Int) - 1 := by
      rw [← cast_two_leastFull, le_sub_iff_add_le]
      exact_mod_cast hm
    calc |(finite s m e hc).toRat| = m * 2 ^ e := abs_toRat_finite s hc
      _ ≤ (2 ^ (53 : Int) - 1) * 2 ^ (971 : Int) := by
        gcongr
        exact one_le_two
      _ = tooLarge - 2 ^ (971 : Int) := by
        rw [sub_mul, one_mul, ← zpow_add₀ (by norm_num)]
        rfl

theorem abs_toRat_lt (h : x.isFinite = true) : |x.toRat| < tooLarge :=
  (abs_toRat_le h).trans_lt (sub_lt_self _ (by positivity))

theorem canonical_unique {m n : Nat} {e f : Int} (hm : Canonical m e) (hn : Canonical n f)
    (h : (m : Rat) * 2 ^ e = n * 2 ^ f) : m = n ∧ e = f := by
  -- with a greater exponent the significand is full, which the other number does not reach
  have least {m n : Nat} {e f : Int} (hm : Canonical m e) (hn : Canonical n f)
      (h : (m : Rat) * 2 ^ e = n * 2 ^ f) : f ≤ e := by
    by_contra! hlt
    obtain ⟨hm, he, -, -⟩ := hm
    obtain ⟨-, -, -, hfull | hleast⟩ := hn
    · have := (le_mul_zpow hfull f).trans_lt (h ▸ mul_zpow_lt hm e)
      have := (zpow_lt_zpow_iff_right₀ (one_lt_two (α := Rat))).mp this
      omega
    · omega
  obtain rfl : e = f := le_antisymm (least hn hm h.symm) (least hm hn h)
  have : (2 : Rat) ^ e ≠ 0 := by positivity
  exact ⟨by exact_mod_cast mul_right_cancel₀ this h, rfl⟩

theorem toRat_neg_iff {m : Nat} {e : Int} {h : Canonical m e} (h0 : (finite s m e h).toRat ≠ 0) :
    (finite s m e h).toRat < 0 ↔ s = true := by
  have nonneg : (0 : Rat) ≤ m * 2 ^ e := by positivity
  cases s with
  | false => simpa [toRat] using nonneg
  | true =>
    have h0' : (m : Rat) * 2 ^ e ≠ 0 := by simpa [toRat] using h0
    simpa [toRat] using lt_of_le_of_ne nonneg h0'.symm

/-- The exact value of a finite double tells which one it is, the two zeros apart. -/
theorem eq_of_toRat (hx : x.isFinite = true) (hy : y.isFinite = true) (h : x.toRat = y.toRat)
    (h0 : x.toRat ≠ 0) : x = y := by
  cases x with
  | nan => cases hx
  | infinite s => cases hx
  | finite s m e hm =>
    cases y with
    | nan => cases hy
    | infinite t => cases hy
    | finite t n f hn =>
      obtain ⟨rfl, rfl⟩ := canonical_unique hm hn (by
        rw [← abs_toRat_finite s hm, ← abs_toRat_finite t hn, h])
      have : s = true ↔ t = true := by rw [← toRat_neg_iff h0, ← toRat_neg_iff (h ▸ h0), h]
      obtain rfl := Bool.eq_iff_iff.mpr this
      rfl

section

variable (hx : x.isFinite = true) (hy : y.isFinite = true)

include hx hy

theorem lt_iff : Scalar.lt x y = true ↔ x.toRat < y.toRat := by
  cases x <;> cases hx
  cases y <;> cases hy
  simp only [Scalar.lt, Scalar.compare?, compare?, beq_iff_eq, Option.some.injEq]
  split_ifs with hlt <;> simp [hlt]

theorem le_iff : Scalar.le x y = true ↔ x.toRat ≤ y.toRat := by
  rw [Scalar.le, Bool.or_eq_true, lt_iff hx hy, le_iff_lt_or_eq]
  cases x <;> cases hx
  cases y <;> cases hy
  rw [eq_finite]

theorem add_eq : x + y = round (x.toRat + y.toRat) (x.isNegative && y.isNegative) := by
  cases x <;> cases hx
  cases y <;> cases hy
  rfl

theorem mul_eq : x * y = round (x.toRat * y.toRat) (x.isNegative != y.isNegative) := by
  cases x <;> cases hx
  cases y <;> cases hy
  rfl

theorem div_eq (h0 : y.toRat ≠ 0) :
    x / y = round (x.toRat / y.toRat) (x.isNegative != y.isNegative) := by
  cases x <;> cases hx
  cases y <;> cases hy
  change (if _ then _ else round _ _) = _
  rw [isZero_finite, decide_eq_false h0]
  rfl

theorem mod_eq (h0 : y.toRat ≠ 0) :
    x.mod y = round (x.toRat - y.toRat * (x.toRat / y.toRat).floor) y.isNegative := by
  cases x <;> cases hx
  cases y <;> cases hy
  change (if _ then _ else round _ _) = _
  rw [isZero_finite, decide_eq_false h0]
  rfl

end

theorem literal_zero : (0.0 : Double) = zero false := by decide +kernel

@[simp] theorem isFinite_neg (x : Double) : (-x).isFinite = x.isFinite := by cases x <;> rfl

@[simp] theorem toRat_neg (x : Double) : (-x).toRat = -x.toRat := by
  cases x with
  | nan => simp [toRat]
  | infinite s => simp [toRat]
  | finite s m e h => exact toRat_finite_not s m e h

theorem isNegative_neg (h : x.isFinite = true) : (-x).isNegative = !x.isNegative := by
  cases x <;> cases h
  rfl

theorem sub_eq (hx : x.isFinite = true) (hy : y.isFinite = true) :
    x - y = round (x.toRat - y.toRat) (x.isNegative && !y.isNegative) := by
  change x + -y = _
  rw [add_eq hx (by simpa using hy), toRat_neg, isNegative_neg hy, sub_eq_add_neg]

@[simp] theorem isFinite_zero (s : Bool) : (zero s).isFinite = true := rfl

@[simp] theorem toRat_zero (s : Bool) : (zero s).toRat = 0 := by simp [zero, toRat]

@[simp] theorem round_zero (s : Bool) : round 0 s = zero s := by simp [round]

theorem toRat_round_nonneg (h : 0 ≤ q) (s : Bool) : 0 ≤ (round q s).toRat := by
  rcases h.eq_or_lt with rfl | hq
  · rw [round_zero, toRat_zero]
  · rw [round_of_pos hq]
    exact toRat_nonneg (isNegative_ofParts _ _ _)

/-- What holds of the rounding of positive numbers and does not depend on the side holds of that of
all numbers. -/
theorem round_symmetric {P : Rat → Double → Prop} (s : Bool) (q : Rat) (none : P 0 (zero s))
    (other : ∀ q x, P q x → P (-q) (-x)) (positive : ∀ q, 0 < q → P q (round q s)) :
    P q (round q s) := by
  rcases lt_trichotomy q 0 with hq | rfl | hq
  · have := other _ _ (positive (-q) (neg_pos.mpr hq))
    rwa [← round_neg (neg_ne_zero.mpr hq.ne) s s, neg_neg] at this
  · simpa [round] using none
  · exact positive q hq

/-- What lies between two doubles is rounded to a double between them. -/
theorem round_between (hl : l.isFinite = true) (hu : u.isFinite = true) (low : l.toRat ≤ q)
    (high : q ≤ u.toRat) (s : Bool) : (round q s).isFinite = true ∧
      l.toRat ≤ (round q s).toRat ∧ (round q s).toRat ≤ u.toRat := by
  refine round_symmetric (P := fun q x => ∀ l u : Double, l.isFinite = true → u.isFinite = true →
    l.toRat ≤ q → q ≤ u.toRat → x.isFinite = true ∧ l.toRat ≤ x.toRat ∧ x.toRat ≤ u.toRat)
    s q ?_ ?_ ?_ l u hl hu low high
  · intro l u hl hu low high
    simpa using ⟨low, high⟩
  · intro q x h l u hl hu low high
    obtain ⟨hx, low', high'⟩ := h (-u) (-l) (by simpa using hu) (by simpa using hl)
      (by rw [toRat_neg]; linarith) (by rw [toRat_neg]; linarith)
    rw [toRat_neg] at low' high' ⊢
    exact ⟨by simpa using hx, by linarith, by linarith⟩
  · intro q hq l u hl hu low high
    have hu' := onGrid_abs hu
    have hlt := abs_toRat_lt hu
    rw [abs_of_pos (hq.trans_le high)] at hu' hlt
    have below := rounded_le hq hu' high
    refine ⟨(isFinite_round_iff hq s).mpr (below.trans_lt hlt), ?_⟩
    rw [toRat_round hq s (below.trans_lt hlt)]
    refine ⟨?_, below⟩
    rcases le_or_gt l.toRat 0 with hl0 | hl0
    · exact hl0.trans (rounded_nonneg q)
    · have hl' := onGrid_abs hl
      rw [abs_of_pos hl0] at hl'
      exact le_rounded hq hl' low

/-- A double is rounded to itself. -/
theorem round_toRat (hx : x.isFinite = true) (s : Bool) :
    (round x.toRat s).isFinite = true ∧ (round x.toRat s).toRat = x.toRat := by
  obtain ⟨hfinite, low, high⟩ := round_between hx hx le_rfl le_rfl s
  exact ⟨hfinite, le_antisymm high low⟩

/-- Rounding twice is rounding once, unless a number vanishes and only its sign is left. -/
theorem round_round (h : (round q s).isFinite = true) (h0 : (round q s).toRat = 0 → q = 0) :
    round (round q s).toRat s = round q s := by
  obtain ⟨hfinite, hvalue⟩ := round_toRat h s
  by_cases hq : (round q s).toRat = 0
  · rw [hq, h0 hq]
  · exact eq_of_toRat hfinite h hvalue (by rwa [hvalue])

theorem exists_of_onGrid (h : OnGrid |q|) (hlt : |q| < tooLarge) :
    ∃ x : Double, x.isFinite = true ∧ x.toRat = q := by
  refine ⟨round q false, round_symmetric (P := fun q x => OnGrid |q| → |q| < tooLarge →
    x.isFinite = true ∧ x.toRat = q) false q ?_ ?_ ?_ h hlt⟩
  · intro _ _
    simp
  · intro q x hx h hlt
    rw [abs_neg] at h hlt
    simpa using hx h hlt
  · intro q hq h hlt
    rw [abs_of_pos hq] at h hlt
    have exact := rounded_of_onGrid hq h
    rw [isFinite_round_iff hq, exact, toRat_round hq false (by rwa [exact]), exact]
    exact ⟨hlt, rfl⟩

/-- The difference of two numbers on the grid is on it again if it is no larger than the one with
the finer places. -/
theorem OnGrid.abs_sub (ha : OnGrid a) (hb : OnGrid b) (h : b ≤ 2 * a) (h' : a ≤ 2 * b) :
    OnGrid |a - b| := by
  have fine {m n : Nat} {e f : Int} (hm : m < 2 * leastFull) (he : -1074 ≤ e) (hf : e ≤ f)
      (h : |(m : Rat) * 2 ^ e - n * 2 ^ f| ≤ m * 2 ^ e) :
      OnGrid |(m : Rat) * 2 ^ e - n * 2 ^ f| := by
    have scale : (2 : Rat) ^ f = 2 ^ (f - e).toNat * 2 ^ e := by
      rw [← zpow_natCast, ← zpow_add₀ (by norm_num)]
      congr 1
      omega
    have places : |(m : Rat) * 2 ^ e - n * 2 ^ f| =
        ((m : Int) - n * 2 ^ (f - e).toNat).natAbs * 2 ^ e := by
      rw [scale, ← mul_assoc, ← sub_mul, abs_mul, abs_of_pos (show (0 : Rat) < 2 ^ e by positivity),
        Nat.cast_natAbs]
      push_cast
      rfl
    refine ⟨_, e, ?_, he, places⟩
    rw [places, mul_le_mul_iff_left₀ (by positivity)] at h
    exact (by exact_mod_cast h : _ ≤ m).trans_lt hm
  obtain ⟨m, e, hm, he, rfl⟩ := id ha
  obtain ⟨n, f, hn, hf, rfl⟩ := id hb
  rcases le_total e f with hef | hef
  · exact fine hm he hef (abs_le.mpr ⟨by linarith, by linarith⟩)
  · rw [abs_sub_comm]
    exact fine hn hf hef (abs_le.mpr ⟨by linarith, by linarith⟩)

/-- A difference of doubles of about one size is a double. -/
theorem exists_sub (hx : x.isFinite = true) (hy : y.isFinite = true)
    (h : y.toRat ≤ 2 * x.toRat) (h' : x.toRat ≤ 2 * y.toRat) :
    ∃ d : Double, d.isFinite = true ∧ d.toRat = x.toRat - y.toRat := by
  have hx' := onGrid_abs hx
  have hy' := onGrid_abs hy
  have hlt := abs_toRat_lt hx
  rw [abs_of_nonneg (show 0 ≤ x.toRat by linarith)] at hx' hlt
  rw [abs_of_nonneg (show 0 ≤ y.toRat by linarith)] at hy'
  refine exists_of_onGrid (hx'.abs_sub hy' h h') (lt_of_le_of_lt ?_ hlt)
  exact abs_le.mpr ⟨by linarith, by linarith⟩

/-- What is rounded loses half a place at most. -/
theorem abs_round_sub_le {k : Int} (hk : -1074 ≤ k) (h : |q| < 2 ^ (k + 53))
    (hfinite : (round q s).isFinite = true) : |(round q s).toRat - q| ≤ 2 ^ k / 2 := by
  refine round_symmetric (P := fun q x => |q| < 2 ^ (k + 53) → x.isFinite = true →
    |x.toRat - q| ≤ 2 ^ k / 2) s q ?_ ?_ ?_ h hfinite
  · intro _ _
    rw [toRat_zero, sub_zero, abs_zero]
    positivity
  · intro q x hx h hfinite
    have := hx (by rwa [abs_neg] at h) (by simpa using hfinite)
    rwa [toRat_neg, ← neg_sub', abs_neg]
  · intro q hq h hfinite
    rw [abs_of_pos hq] at h
    rw [toRat_round hq s ((isFinite_round_iff hq s).mp hfinite)]
    refine (abs_rounded_sub_le hq).trans ?_
    have := (roundingExponent_le_iff hq hk).mpr h
    gcongr
    norm_num

/-- Less than half a place above the greatest double nothing is too large. -/
theorem isFinite_round (h : |q| < tooLarge - 2 ^ (970 : Int)) (s : Bool) :
    (round q s).isFinite = true := by
  refine round_symmetric (P := fun q x => |q| < tooLarge - 2 ^ (970 : Int) → x.isFinite = true)
    s q ?_ ?_ ?_ h
  · intro _
    simp
  · intro q x hx h
    simpa using hx (by rwa [abs_neg] at h)
  · intro q hq h
    rw [abs_of_pos hq] at h
    have exponent : roundingExponent q ≤ 971 :=
      (roundingExponent_le_iff hq (by norm_num)).mpr (h.trans (by norm_num))
    have place : (2 : Rat) ^ roundingExponent q ≤ 2 * 2 ^ (970 : Int) := by
      rw [← zpow_one_add₀ (by norm_num)]
      exact zpow_le_zpow_right₀ one_le_two (by simpa using exponent)
    have := (abs_le.mp (abs_rounded_sub_le hq)).2
    rw [isFinite_round_iff hq]
    linarith

end RobotSoccer.Double
