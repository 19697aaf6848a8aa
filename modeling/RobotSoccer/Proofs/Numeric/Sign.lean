import Mathlib.Tactic.Ring
import RobotSoccer.Numeric.Scalar
import RobotSoccer.Value.Arithmetic

/-! Doubles that are equal as numbers, and how the signs of terms pass through sums, products and
quotients: rounding to nearest does not favour a side. -/
namespace RobotSoccer.Double

/-- Equal as numbers: the two zeros are equal, and NaN matches NaN. -/
def Alike (x y : Double) : Prop := Scalar.eq x y = true ∨ (x.isNaN = true ∧ y.isNaN = true)

/-- The number that a double is: none, the infinity of a sign, or an exact rational. -/
def worth : Double → Option (Bool ⊕ Rat)
  | nan => none
  | infinite s => some (.inl s)
  | x@(finite ..) => some (.inr x.toRat)

theorem eq_finite {s t : Bool} {m n : Nat} {e f : Int} {h : Canonical m e} {k : Canonical n f} :
    Scalar.eq (finite s m e h) (finite t n f k) = true ↔
      (finite s m e h).toRat = (finite t n f k).toRat := by
  simp only [Scalar.eq, Scalar.compare?, compare?, beq_iff_eq, Option.some.injEq]
  split_ifs with hlt hgt
  · simp [hlt.ne]
  · simp [hgt.ne']
  · simp [le_antisymm (not_lt.mp hgt) (not_lt.mp hlt)]

theorem alike_iff {x y : Double} : Alike x y ↔ x.worth = y.worth := by
  cases x with
  | nan => cases y <;> simp [Alike, Scalar.eq, Scalar.compare?, compare?, isNaN, worth]
  | infinite s =>
    cases y with
    | infinite t =>
      cases s <;> cases t <;> simp [Alike, Scalar.eq, Scalar.compare?, compare?, isNaN, worth]
    | nan => simp [Alike, Scalar.eq, Scalar.compare?, compare?, isNaN, worth]
    | finite t n f k =>
      cases s <;> simp [Alike, Scalar.eq, Scalar.compare?, compare?, isNaN, worth]
  | finite s m e h =>
    cases y with
    | infinite t => cases t <;> simp [Alike, Scalar.eq, Scalar.compare?, compare?, isNaN, worth]
    | nan => simp [Alike, Scalar.eq, Scalar.compare?, compare?, isNaN, worth]
    | finite t n f k => rw [Alike, eq_finite]; simp [isNaN, worth]

theorem alike_refl (x : Double) : Alike x x := alike_iff.mpr rfl

theorem Alike.symm {x y : Double} (h : Alike x y) : Alike y x :=
  alike_iff.mpr (alike_iff.mp h).symm

theorem Alike.trans {x y z : Double} (h : Alike x y) (h' : Alike y z) : Alike x z :=
  alike_iff.mpr ((alike_iff.mp h).trans (alike_iff.mp h'))

@[simp] theorem neg_nan : -nan = nan := rfl
@[simp] theorem neg_infinite (s : Bool) : -infinite s = infinite !s := rfl
@[simp] theorem neg_finite (s : Bool) (m : Nat) (e : Int) (h : Canonical m e) :
    -finite s m e h = finite (!s) m e h := rfl

/-- A sign that is changed twice is the first one, also of a zero. -/
theorem neg_twice (x : Double) : - -x = x := by cases x <;> simp

@[simp] theorem toRat_finite_not (s : Bool) (m : Nat) (e : Int) (h : Canonical m e) :
    (finite (!s) m e h).toRat = -(finite s m e h).toRat := by
  cases s <;> simp [toRat]

theorem worth_neg (x : Double) : (-x).worth = x.worth.map (Sum.map not Neg.neg) := by
  cases x <;> simp [worth]

theorem Alike.neg {x y : Double} (h : Alike x y) : Alike (-x) (-y) := by
  rw [alike_iff, worth_neg, worth_neg, alike_iff.mp h]

theorem isZero_finite {s : Bool} {m : Nat} {e : Int} {h : Canonical m e} :
    (finite s m e h).isZero = decide ((finite s m e h).toRat = 0) := by
  cases s <;> simp [isZero, toRat, zpow_ne_zero]

/-- An exact zero is the only number whose sign rounding does not settle. -/
theorem alike_round (q : Rat) (s t : Bool) : Alike (round q s) (round q t) := by
  by_cases h : q = 0
  · rw [alike_iff]
    cases s <;> cases t <;> simp [round, h, zero, worth, toRat]
  · simpa [round, h] using alike_refl _

theorem ofParts_not (s : Bool) (m : Nat) (e : Int) : ofParts (!s) m e = -ofParts s m e := by
  unfold ofParts
  split_ifs <;> rfl

/-- Rounding to nearest does not favour a side. -/
theorem round_neg {q : Rat} (h : q ≠ 0) (s t : Bool) : round (-q) s = -round q t := by
  have side : decide (-q < 0) = !decide (q < 0) := by
    rw [← decide_not, decide_eq_decide, not_lt, neg_lt_zero]
    exact ⟨le_of_lt, fun hq => lt_of_le_of_ne hq (Ne.symm h)⟩
  rw [round, round, if_neg (neg_ne_zero.mpr h), if_neg h, Rat.abs_neg]
  simp only [side, ofParts_not]

theorem alike_round_neg (q : Rat) (s t : Bool) : Alike (round (-q) s) (-round q t) := by
  by_cases h : q = 0
  · rw [alike_iff]
    cases s <;> cases t <;> simp [round, h, zero, worth, toRat]
  · rw [round_neg h s t]
    exact alike_refl _

/-- What is equal as a number is the same, or two finite doubles of one exact value. -/
theorem Alike.same_or_finite {x y : Double} (h : Alike x y) :
    x = y ∨ ∃ s m e k s' m' e' k', x = finite s m e k ∧ y = finite s' m' e' k' ∧
      (finite s m e k).toRat = (finite s' m' e' k').toRat := by
  rw [alike_iff] at h
  cases x with
  | nan => cases y <;> simp [worth] at h ⊢
  | infinite s => cases y <;> simp [worth] at h ⊢; exact h
  | finite s m e k =>
    cases y with
    | nan => simp [worth] at h
    | infinite t => simp [worth] at h
    | finite s' m' e' k' =>
      exact Or.inr ⟨s, m, e, k, s', m', e', k', rfl, rfl, by simpa [worth] using h⟩

theorem finite_add_finite (s t : Bool) (m n : Nat) (e f : Int) (h : Canonical m e)
    (k : Canonical n f) : finite s m e h + finite t n f k =
      round ((finite s m e h).toRat + (finite t n f k).toRat) (s && t) := rfl

theorem Alike.add {x x' y y' : Double} (hx : Alike x x') (hy : Alike y y') :
    Alike (x + y) (x' + y') := by
  obtain rfl | ⟨s, m, e, h, s', m', e', h', rfl, rfl, hq⟩ := hx.same_or_finite
  · obtain rfl | ⟨t, n, f, k, t', n', f', k', rfl, rfl, hr⟩ := hy.same_or_finite
    · exact alike_refl _
    · cases x with
      | nan => exact alike_refl _
      | infinite s => exact alike_refl _
      | finite s m e h =>
        rw [finite_add_finite, finite_add_finite, hr]
        exact alike_round _ _ _
  · obtain rfl | ⟨t, n, f, k, t', n', f', k', rfl, rfl, hr⟩ := hy.same_or_finite
    · cases y with
      | nan => exact alike_refl _
      | infinite t => exact alike_refl _
      | finite t n f k =>
        rw [finite_add_finite, finite_add_finite, hq]
        exact alike_round _ _ _
    · rw [finite_add_finite, finite_add_finite, hq, hr]
      exact alike_round _ _ _

theorem alike_neg_add (x y : Double) : Alike (-x + -y) (-(x + y)) := by
  cases x with
  | nan => exact alike_refl _
  | infinite s =>
    cases y with
    | nan => exact alike_refl _
    | infinite t => cases s <;> cases t <;> exact alike_refl _
    | finite t n f k => exact alike_refl _
  | finite s m e h =>
    cases y with
    | nan => exact alike_refl _
    | infinite t => exact alike_refl _
    | finite t n f k =>
      rw [neg_finite, neg_finite, finite_add_finite, finite_add_finite, toRat_finite_not,
        toRat_finite_not, ← neg_add]
      exact alike_round_neg _ _ _

theorem Alike.sub {x x' y y' : Double} (hx : Alike x x') (hy : Alike y y') :
    Alike (x - y) (x' - y') := hx.add hy.neg

theorem alike_neg_sub (x y : Double) : Alike (-x - -y) (-(x - y)) := alike_neg_add x (-y)

theorem Alike.mul_finite {x y : Double} (h : Alike x y) {c : Double} (hc : c.isFinite = true) :
    Alike (x * c) (y * c) := by
  obtain rfl | ⟨s, m, e, k, s', m', e', k', rfl, rfl, hq⟩ := h.same_or_finite
  · exact alike_refl _
  · cases c with
    | nan => cases hc
    | infinite t => cases hc
    | finite t n f k =>
      change Alike (round (_ * _) _) (round (_ * _) _)
      rw [hq]
      exact alike_round _ _ _

theorem alike_neg_mul (x c : Double) : Alike (-x * c) (-(x * c)) := by
  cases c with
  | nan => cases x <;> exact alike_refl _
  | infinite t =>
    cases x with
    | nan => exact alike_refl _
    | infinite s => cases s <;> cases t <;> exact alike_refl _
    | finite s m e h =>
      change Alike (if (finite s m e h).isZero then nan else _) (-(if _ then nan else _))
      split_ifs
      · exact alike_refl _
      · cases s <;> cases t <;> exact alike_refl _
  | finite t n f k =>
    cases x with
    | nan => exact alike_refl _
    | infinite s =>
      change Alike (if _ then nan else _) (-(if _ then nan else _))
      split_ifs
      · exact alike_refl _
      · cases s <;> cases t <;> exact alike_refl _
    | finite s m e h =>
      change Alike (round (_ * _) _) (-round (_ * _) _)
      rw [toRat_finite_not, neg_mul]
      exact alike_round_neg _ _ _

theorem Alike.div {x y : Double} (h : Alike x y) {c : Double} (hc : c.isZero = false) :
    Alike (x / c) (y / c) := by
  obtain rfl | ⟨s, m, e, k, s', m', e', k', rfl, rfl, hq⟩ := h.same_or_finite
  · exact alike_refl _
  · cases c with
    | nan => exact alike_refl _
    | infinite t =>
      change Alike (zero _) (zero _)
      simpa [round] using alike_round 0 (s != t) (s' != t)
    | finite t n f k =>
      change Alike (if _ then _ else round (_ / _) _) (if _ then _ else round (_ / _) _)
      rw [hc, hq]
      exact alike_round _ _ _

theorem alike_neg_div (x : Double) {c : Double} (hc : c.isZero = false) :
    Alike (-x / c) (-(x / c)) := by
  cases c with
  | nan => cases x <;> exact alike_refl _
  | infinite t =>
    cases x with
    | nan => exact alike_refl _
    | infinite s => exact alike_refl _
    | finite s m e h =>
      change Alike (zero _) (-zero _)
      simpa [round] using alike_round_neg 0 (!s != t) (s != t)
  | finite t n f k =>
    cases x with
    | nan => exact alike_refl _
    | infinite s => cases s <;> cases t <;> exact alike_refl _
    | finite s m e h =>
      change Alike (if _ then _ else round (_ / _) _) (-(if _ then _ else round (_ / _) _))
      rw [hc, toRat_finite_not, neg_div]
      exact alike_round_neg _ _ _

theorem scalar_isZero (x : Double) : Scalar.isZero x = x.isZero := by
  rw [Scalar.isZero, show (0.0 : Double) = zero false by decide +kernel]
  cases x with
  | nan => rfl
  | infinite s => cases s <;> rfl
  | finite s m e h =>
    rw [isZero_finite, Bool.eq_iff_iff, zero, eq_finite, decide_eq_true_iff]
    simp [toRat]

/-- A test for zero does not see the sign. -/
theorem isZero_neg (x : Double) : Scalar.isZero (-x) = Scalar.isZero x := by
  rw [scalar_isZero, scalar_isZero]
  cases x <;> rfl

theorem Alike.isZero {x y : Double} (h : Alike x y) : Scalar.isZero x = Scalar.isZero y := by
  obtain rfl | ⟨s, m, e, k, s', m', e', k', rfl, rfl, hq⟩ := h.same_or_finite
  · rfl
  · rw [scalar_isZero, scalar_isZero, isZero_finite, isZero_finite, hq]

end RobotSoccer.Double
