import RobotSoccer.Geometry.Pose
import RobotSoccer.Proofs.Numeric.Arithmetic

/-! Headings of doubles. A sum, a remainder and a difference are rounded, and one double's remainder
is rounded up to a full turn; all others have headings in range. -/
namespace RobotSoccer

/-- The double `π`, exactly. -/
def halfTurn : Rat := 7074237752028440 * (1 / 2 ^ 51)

theorem halfTurn_eq : halfTurn = 7074237752028440 * (1 / 2 ^ 51) := rfl

theorem three_lt_halfTurn : 3 < halfTurn := by norm_num [halfTurn]

theorem halfTurn_pos : 0 < halfTurn := by norm_num [halfTurn]

theorem turn_pos : 0 < 2 * halfTurn := mul_pos two_pos halfTurn_pos

namespace Double

variable {a : Double}

theorem isFinite_pi : pi.isFinite = true := rfl

theorem toRat_pi : pi.toRat = halfTurn := by norm_num [pi, toRat, halfTurn]

theorem isFinite_neg_pi : (-pi).isFinite = true := rfl

theorem toRat_neg_pi : (-pi).toRat = -halfTurn := by rw [toRat_neg, toRat_pi]

theorem two_pi : 2.0 * pi = finite false 7074237752028440 (-50) (by decide) := by decide +kernel

theorem isFinite_two_pi : (2.0 * pi).isFinite = true := by rw [two_pi]; rfl

theorem toRat_two_pi : (2.0 * pi).toRat = 2 * halfTurn := by norm_num [two_pi, toRat, halfTurn]

theorem isFinite_add_pi (h : a.isFinite = true) : (a + pi).isFinite = true := by
  rw [add_eq h isFinite_pi]
  refine isFinite_round ?_ _
  have place : (2 : Rat) ^ (971 : Int) = 2 * 2 ^ (970 : Int) := by
    rw [← zpow_one_add₀ (by norm_num)]
    rfl
  have small : |pi.toRat| < 2 ^ (970 : Int) := by
    calc |pi.toRat| = halfTurn := by rw [toRat_pi, abs_of_pos halfTurn_pos]
      _ < 2 ^ (2 : Int) := by norm_num [halfTurn]
      _ ≤ 2 ^ (970 : Int) := zpow_le_zpow_right₀ one_le_two (by norm_num)
  have := abs_add_le a.toRat pi.toRat
  have := abs_toRat_le h
  rw [place] at this
  linarith

/-- From half of `π` on a difference with `π` is exact. -/
theorem exists_sub_pi (h : a.isFinite = true) (low : halfTurn / 2 ≤ a.toRat)
    (high : a.toRat ≤ 2 * halfTurn) :
    ∃ d : Double, d.isFinite = true ∧ d.toRat = a.toRat - halfTurn := by
  have := exists_sub h isFinite_pi (by rw [toRat_pi]; linarith) (by rw [toRat_pi]; linarith)
  rwa [toRat_pi] at this

theorem exists_add_pi (h : a.isFinite = true) (low : -(2 * halfTurn) ≤ a.toRat)
    (high : a.toRat ≤ -(halfTurn / 2)) :
    ∃ d : Double, d.isFinite = true ∧ d.toRat = a.toRat + halfTurn := by
  have := exists_sub isFinite_pi (y := -a) (by rwa [isFinite_neg])
    (by rw [toRat_neg, toRat_pi]; linarith) (by rw [toRat_neg, toRat_pi]; linarith)
  rwa [toRat_neg, toRat_pi, sub_neg_eq_add, add_comm] at this

theorem exists_half_pi : ∃ u : Double, u.isFinite = true ∧ u.toRat = halfTurn / 2 :=
  ⟨.finite false 7074237752028440 (-52) (by decide), rfl, by norm_num [toRat, halfTurn]⟩

end Double

open Double

/-- What is left of an angle after full turns. -/
def turnRest (q : Rat) : Rat := q - 2 * halfTurn * (q / (2 * halfTurn)).floor

section

variable {q : Rat}

theorem turnRest_nonneg (q : Rat) : 0 ≤ turnRest q := by
  have low : ((q / (2 * halfTurn)).floor : Rat) ≤ q / (2 * halfTurn) := Rat.le_floor_iff.mp le_rfl
  rw [le_div_iff₀ turn_pos] at low
  unfold turnRest
  linarith

theorem turnRest_lt (q : Rat) : turnRest q < 2 * halfTurn := by
  have high : q / (2 * halfTurn) < (q / (2 * halfTurn)).floor + 1 :=
    sub_lt_iff_lt_add.mp Rat.lt_floor
  rw [div_lt_iff₀ turn_pos] at high
  unfold turnRest
  linarith

theorem turnRest_eq {k : Int} (low : 2 * halfTurn * k ≤ q) (high : q < 2 * halfTurn * (k + 1)) :
    turnRest q = q - 2 * halfTurn * k := by
  have floor : (q / (2 * halfTurn)).floor = k := by
    apply le_antisymm
    · have : (q / (2 * halfTurn)).floor < k + 1 := by
        rw [Rat.floor_lt_iff, div_lt_iff₀ turn_pos, mul_comm]
        push_cast
        exact high
      omega
    · rw [Rat.le_floor_iff, le_div_iff₀ turn_pos, mul_comm]
      exact low
  rw [turnRest, floor]

end

/-- The remainder is rounded to a double, from the heading `-π` up to `π`. -/
theorem round_turnRest (q : Rat) : (round (turnRest q) false).isFinite = true ∧
    0 ≤ (round (turnRest q) false).toRat ∧
    (round (turnRest q) false).toRat ≤ 2 * halfTurn := by
  have := round_between (q := turnRest q) (isFinite_zero false) isFinite_two_pi
    (by rw [toRat_zero]; exact turnRest_nonneg q)
    (by rw [toRat_two_pi]; exact (turnRest_lt q).le) false
  rwa [toRat_zero, toRat_two_pi] at this

variable {a : Double}

theorem headingOf_eq_round (h : a.isFinite = true) :
    headingOf a = round ((round (turnRest (a + pi).toRat) false).toRat - halfTurn) false := by
  have sum := isFinite_add_pi h
  have rest : Scalar.mod (a + pi) (2.0 * pi) = round (turnRest (a + pi).toRat) false := by
    change Double.mod _ _ = _
    rw [mod_eq sum isFinite_two_pi (by rw [toRat_two_pi]; exact turn_pos.ne'), toRat_two_pi,
      turnRest, two_pi]
    rfl
  change Scalar.mod (a + pi) (2.0 * pi) - pi = _
  have positive := isNegative_round (turnRest_nonneg (a + pi).toRat)
  obtain ⟨hfinite, -⟩ := round_turnRest (a + pi).toRat
  rw [rest, sub_eq hfinite isFinite_pi, positive, toRat_pi]
  rfl

/-- The double next below `-π`. What is left of a turn after it is half a place less than the turn
and is rounded up to the whole turn. -/
def belowRange : Double := .finite true 7074237752028441 (-51) (by decide)

theorem toRat_belowRange : belowRange.toRat = -halfTurn - 1 / 2 ^ 51 := by
  norm_num [belowRange, toRat, halfTurn]

/-- Every other double below `-π` is so by a place of the full turn. -/
theorem add_halfTurn_le (h : a.isFinite = true) (hne : a ≠ belowRange)
    (below : a.toRat + halfTurn < 0) : a.toRat + halfTurn ≤ -(1 / 2 ^ 50) := by
  have three := three_lt_halfTurn
  have size : |a.toRat| = -a.toRat := abs_of_neg (by linarith)
  rcases (onGrid_abs h).multiple_or_lt (-51) with ⟨k, hk⟩ | ⟨hlt, -⟩
  · have place : (2 : Rat) ^ (-51 : Int) = 1 / 2 ^ 51 := by norm_num
    have value : a.toRat = -(k * (1 / 2 ^ 51)) := by
      rw [size, place] at hk
      linarith
    rw [value, halfTurn_eq] at below
    have low : 7074237752028440 < k := by
      have : (7074237752028440 : Rat) < k := by linarith
      exact_mod_cast this
    have other : k ≠ 7074237752028441 := by
      rintro rfl
      refine hne (eq_of_toRat h rfl ?_ ?_) <;> rw [value]
      · rw [toRat_belowRange, halfTurn_eq]
        norm_num
      · norm_num
    have : (7074237752028442 : Rat) ≤ k := by exact_mod_cast (show 7074237752028442 ≤ k by omega)
    rw [value, halfTurn_eq]
    linarith
  · rw [size] at hlt
    norm_num at hlt
    linarith

theorem add_pi_le (h : a.isFinite = true) (hne : a ≠ belowRange) (neg : (a + pi).toRat < 0) :
    (a + pi).toRat ≤ -(1 / 2 ^ 50) := by
  rw [add_eq h isFinite_pi, toRat_pi] at neg ⊢
  have below : a.toRat + halfTurn < 0 := by
    by_contra! nonneg
    exact neg.not_ge (toRat_round_nonneg nonneg _)
  obtain ⟨u, hu, place⟩ : ∃ u : Double, u.isFinite = true ∧ u.toRat = -(1 / 2 ^ 50) :=
    ⟨.finite true leastFull (-102) (by decide), rfl, by norm_num [toRat, leastFull]⟩
  have gap := add_halfTurn_le h hne below
  rw [← place] at gap ⊢
  exact (round_between h hu (by linarith [halfTurn_pos]) gap _).2.2

/-- A turn is a multiple of its place, and so is what it leaves of a multiple. -/
theorem turnRest_le_of_multiple {q : Rat} {n : Int} (hq : q = n * (1 / 2 ^ 50)) :
    turnRest q ≤ 2 * halfTurn - 1 / 2 ^ 50 := by
  obtain ⟨m, hm⟩ : ∃ m : Int, turnRest q = m * (1 / 2 ^ 50) := by
    refine ⟨n - 7074237752028440 * (q / (2 * halfTurn)).floor, ?_⟩
    rw [turnRest, hq, halfTurn_eq]
    push_cast
    ring
  have less := turnRest_lt q
  rw [hm, halfTurn_eq] at less
  have : m < 7074237752028440 := by
    have : (m : Rat) < 7074237752028440 := by linarith
    exact_mod_cast this
  have : (m : Rat) ≤ 7074237752028439 := by exact_mod_cast (show m ≤ 7074237752028439 by omega)
  rw [hm, halfTurn_eq]
  linarith

/-- After every other angle what is left of a turn is less than the turn by a place. -/
theorem turnRest_le (h : a.isFinite = true) (hne : a ≠ belowRange) :
    turnRest (a + pi).toRat ≤ 2 * halfTurn - 1 / 2 ^ 50 := by
  rcases (onGrid_abs (isFinite_add_pi h)).multiple_or_lt (-50) with ⟨k, hk⟩ | ⟨hlt, -⟩
  · have place : (2 : Rat) ^ (-50 : Int) = 1 / 2 ^ 50 := by norm_num
    rw [place] at hk
    rcases abs_choice (a + pi).toRat with hs | hs <;> rw [hs] at hk
    · exact turnRest_le_of_multiple (n := k) (by exact_mod_cast hk)
    · refine turnRest_le_of_multiple (n := -k) ?_
      push_cast
      linarith
  · norm_num at hlt
    have three := three_lt_halfTurn
    obtain ⟨low, high⟩ := abs_lt.mp hlt
    rcases le_or_gt 0 (a + pi).toRat with nonneg | neg
    · rw [turnRest_eq (k := 0)] <;> push_cast <;> linarith
    · have := add_pi_le h hne neg
      rw [turnRest_eq (k := -1)] <;> push_cast <;> linarith

theorem isHeading_iff (h : a.isFinite = true) :
    isHeading a = true ↔ -halfTurn ≤ a.toRat ∧ a.toRat < halfTurn := by
  rw [isHeading, Bool.and_eq_true]
  change Scalar.le (-pi) a = true ∧ Scalar.lt a pi = true ↔ _
  rw [le_iff isFinite_neg_pi h, lt_iff h isFinite_pi, toRat_neg_pi, toRat_pi]

/-- A bound on what is left of a turn bounds the heading. -/
theorem headingOf_bounds (h : a.isFinite = true) {u v : Double} (hu : u.isFinite = true)
    (hv : v.isFinite = true) (hvu : v.toRat = u.toRat + halfTurn)
    (rest : turnRest (a + pi).toRat ≤ v.toRat) :
    (headingOf a).isFinite = true ∧ -halfTurn ≤ (headingOf a).toRat ∧
      (headingOf a).toRat ≤ u.toRat := by
  obtain ⟨-, nonneg, high⟩ := round_between (isFinite_zero false) hv
    (by rw [toRat_zero]; exact turnRest_nonneg _) rest false
  rw [toRat_zero] at nonneg
  rw [headingOf_eq_round h, ← toRat_neg_pi]
  exact round_between isFinite_neg_pi hu (by rw [toRat_neg_pi]; linarith) (by linarith) false

/-- No heading leaves the closed range, the one of the angle next below `-π` included. -/
theorem headingOf_le_pi (h : a.isFinite = true) : (headingOf a).isFinite = true ∧
    -halfTurn ≤ (headingOf a).toRat ∧ (headingOf a).toRat ≤ halfTurn := by
  have := headingOf_bounds h isFinite_pi isFinite_two_pi (by rw [toRat_two_pi, toRat_pi]; ring)
    (by rw [toRat_two_pi]; exact (turnRest_lt _).le)
  rwa [toRat_pi] at this

theorem headingOf_in_range (h : a.isFinite = true) (hne : a ≠ belowRange) :
    (headingOf a).isFinite = true ∧ -halfTurn ≤ (headingOf a).toRat ∧
      (headingOf a).toRat ≤ halfTurn - 1 / 2 ^ 50 := by
  obtain ⟨u, hu, hplace⟩ : ∃ u : Double, u.isFinite = true ∧ u.toRat = halfTurn - 1 / 2 ^ 50 :=
    ⟨.finite false 7074237752028438 (-51) (by decide), rfl, by norm_num [toRat, halfTurn]⟩
  obtain ⟨v, hv, hrest⟩ : ∃ v : Double, v.isFinite = true ∧ v.toRat = 2 * halfTurn - 1 / 2 ^ 50 :=
    ⟨.finite false 7074237752028439 (-50) (by decide), rfl, by norm_num [toRat, halfTurn]⟩
  rw [← hplace]
  refine headingOf_bounds h hu hv ?_ ?_
  · rw [hplace, hrest]
    ring
  · rw [hrest]
    exact turnRest_le h hne

/-- A heading that is exact as a sum with `π` is its own heading. -/
theorem headingOf_of_exact {d : Double} (h : a.isFinite = true) (hd : d.isFinite = true)
    (sum : d.toRat = a.toRat + halfTurn) (low : -halfTurn ≤ a.toRat) (high : a.toRat < halfTurn) :
    headingOf a = round a.toRat false := by
  have hsum : (a + pi).toRat = a.toRat + halfTurn := by
    rw [add_eq h isFinite_pi, toRat_pi, ← sum]
    exact (round_toRat hd _).2
  have rest : turnRest (a + pi).toRat = d.toRat := by
    rw [hsum, turnRest_eq (k := 0), sum] <;> push_cast <;> linarith
  rw [headingOf_eq_round h, rest, (round_toRat hd false).2, sum, add_sub_cancel_right]

theorem headingOf_twice (h : a.isFinite = true) (hne : a ≠ belowRange) :
    headingOf (headingOf a) = headingOf a := by
  obtain ⟨hfinite, low, high⟩ := headingOf_in_range h hne
  obtain ⟨hrest, nonneg, hle⟩ := round_turnRest (a + pi).toRat
  have heading := headingOf_eq_round h
  generalize round (turnRest (a + pi).toRat) false = r at hrest nonneg hle heading
  have positive := halfTurn_pos
  rcases le_or_gt (halfTurn / 2) r.toRat with hr | hr
  · obtain ⟨d, hd, hdiff⟩ := exists_sub_pi hrest hr hle
    have value : (headingOf a).toRat = r.toRat - halfTurn := by
      rw [heading, ← hdiff]
      exact (round_toRat hd false).2
    rw [headingOf_of_exact hfinite hrest (by rw [value]; ring) low (by linarith), value, heading]
  · -- the difference is in the lower half, from where the sum with `π` is exact
    obtain ⟨u, hu, hhalf⟩ := exists_half_pi
    have half : (headingOf a).toRat ≤ -(halfTurn / 2) := by
      rw [heading, ← hhalf, ← toRat_neg]
      exact (round_between isFinite_neg_pi (by rwa [isFinite_neg]) (by rw [toRat_neg_pi]; linarith)
        (by rw [toRat_neg]; linarith) false).2.2
    obtain ⟨d, hd, hsum⟩ := exists_add_pi hfinite (by linarith) half
    rw [headingOf_of_exact hfinite hd hsum low (by linarith), heading]
    refine round_round (heading ▸ hfinite) fun h0 => ?_
    rw [← heading] at h0
    linarith

theorem isHeading_headingOf (h : a.isFinite = true) (hne : a ≠ belowRange) :
    isHeading (headingOf a) = true := by
  obtain ⟨hfinite, low, high⟩ := headingOf_in_range h hne
  exact (isHeading_iff hfinite).mpr ⟨low, high.trans_lt (sub_lt_self _ (by norm_num))⟩

theorem headingOf_belowRange : headingOf belowRange = pi := by decide +kernel

theorem isHeading_headingOf_iff (h : a.isFinite = true) :
    isHeading (headingOf a) = true ↔ a ≠ belowRange := by
  refine ⟨?_, isHeading_headingOf h⟩
  rintro hin rfl
  rw [headingOf_belowRange] at hin
  exact absurd hin (by decide +kernel)

/-- The heading of a finite angle is in range, and is its own heading, but for the one angle next
below `-π`; and so is the rotation of a sum of poses whose rotations add to that angle. -/
theorem headings_in_range (h : a.isFinite = true) :
    (isHeading (headingOf a) = true ↔ a ≠ belowRange) ∧
      (headingOf (headingOf a) = headingOf a ↔ a ≠ belowRange) ∧
      ∀ p q : Pose Double, p.rotation + q.rotation = a →
        (isHeading (p + q).rotation = true ↔ a ≠ belowRange) := by
  refine ⟨isHeading_headingOf_iff h, ⟨?_, headingOf_twice h⟩, ?_⟩
  · rintro htwice rfl
    rw [headingOf_belowRange] at htwice
    exact absurd htwice (by decide +kernel)
  · rintro p q rfl
    exact isHeading_headingOf_iff h

theorem headings_in_range_beyond :
    isHeading (headingOf (5.0 : Double)) = true ∧
      headingOf (headingOf (5.0 : Double)) = headingOf (5.0 : Double) ∧
      isHeading ((⟨3.0, Vec2.zero⟩ : Pose Double) + ⟨2.0, Vec2.zero⟩).rotation = true := by
  have hne : (5.0 : Double) ≠ belowRange := by decide +kernel
  obtain ⟨hin, htwice, hsum⟩ := headings_in_range (a := 5.0) (by decide +kernel)
  exact ⟨hin.mpr hne, htwice.mpr hne, (hsum _ _ (by decide +kernel)).mpr hne⟩

/-- The angle next below `-π` has a heading out of range, and another one after it. -/
theorem heading_out_of_range : ¬ ∀ a : Double, a.isFinite = true →
    isHeading (headingOf a) = true ∧ headingOf (headingOf a) = headingOf a :=
  fun h => absurd (h belowRange rfl).1 (by decide +kernel)

end RobotSoccer
