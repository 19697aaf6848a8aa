import RobotSoccer.Frame
import RobotSoccer.Proofs.Geometry.HeadingRange

/-! Opposite headings of doubles: in range always, and exact or off by at most half a place of `π`
when taken twice. -/
namespace RobotSoccer

open Double

/-- Half a turn away from the own side of a heading, exactly. -/
def turnedHalf (q : Rat) : Rat := if 0 ≤ q then q - halfTurn else q + halfTurn

section

variable {q : Rat}

theorem turnedHalf_of_nonneg (h : 0 ≤ q) : turnedHalf q = q - halfTurn := if_pos h

theorem turnedHalf_of_neg (h : q < 0) : turnedHalf q = q + halfTurn := if_neg h.not_ge

theorem turnedHalf_twice (low : -halfTurn ≤ q) (high : q < halfTurn) :
    turnedHalf (turnedHalf q) = q := by
  rcases le_or_gt 0 q with h | h
  · rw [turnedHalf_of_nonneg h, turnedHalf_of_neg (by linarith), sub_add_cancel]
  · rw [turnedHalf_of_neg h, turnedHalf_of_nonneg (by linarith), add_sub_cancel_right]

theorem turnedHalf_bounds (low : -halfTurn ≤ q) (high : q ≤ halfTurn) :
    -halfTurn ≤ turnedHalf q ∧ turnedHalf q ≤ halfTurn := by
  have := halfTurn_pos
  rcases le_or_gt 0 q with h | h
  · rw [turnedHalf_of_nonneg h]
    constructor <;> linarith
  · rw [turnedHalf_of_neg h]
    constructor <;> linarith

end

variable {a : Double}

theorem exists_halfTurned (h : a.isFinite = true) :
    ∃ s, halfTurned a = round (turnedHalf a.toRat) s := by
  have side : Scalar.le (0.0 : Double) a = true ↔ 0 ≤ a.toRat := by
    rw [literal_zero, le_iff (isFinite_zero false) h, toRat_zero]
  rw [halfTurned]
  rcases le_or_gt 0 a.toRat with ha | ha
  · rw [if_pos (side.mpr ha), turnedHalf_of_nonneg ha, ← toRat_pi]
    exact ⟨_, sub_eq h isFinite_pi⟩
  · rw [if_neg (side.not.mpr ha.not_ge), turnedHalf_of_neg ha, ← toRat_pi]
    exact ⟨_, add_eq h isFinite_pi⟩

theorem halfTurned_of_exact {d : Double} (h : a.isFinite = true) (hd : d.isFinite = true)
    (exact : d.toRat = turnedHalf a.toRat) :
    (halfTurned a).isFinite = true ∧ (halfTurned a).toRat = turnedHalf a.toRat := by
  obtain ⟨s, hs⟩ := exists_halfTurned h
  rw [hs, ← exact]
  exact round_toRat hd s

theorem halfTurned_bounds (h : a.isFinite = true) (low : -halfTurn ≤ a.toRat)
    (high : a.toRat ≤ halfTurn) : (halfTurned a).isFinite = true ∧
      -halfTurn ≤ (halfTurned a).toRat ∧ (halfTurned a).toRat ≤ halfTurn := by
  obtain ⟨s, hs⟩ := exists_halfTurned h
  obtain ⟨low', high'⟩ := turnedHalf_bounds low high
  rw [← toRat_neg_pi] at low' ⊢
  rw [← toRat_pi] at high' ⊢
  rw [hs]
  exact round_between isFinite_neg_pi isFinite_pi low' high' s

/-- Half a turn back from the end of the range is exact, as everywhere on the outer half. -/
theorem halfTurned_outer (h : a.isFinite = true) (outer : halfTurn / 2 ≤ |a.toRat|)
    (bound : |a.toRat| ≤ halfTurn) :
    (halfTurned a).isFinite = true ∧ (halfTurned a).toRat = turnedHalf a.toRat := by
  have positive := halfTurn_pos
  rcases le_or_gt 0 a.toRat with ha | ha
  · rw [abs_of_nonneg ha] at outer bound
    obtain ⟨d, hd, exact⟩ := exists_sub_pi h outer (by linarith)
    exact halfTurned_of_exact h hd (by rw [turnedHalf_of_nonneg ha, exact])
  · rw [abs_of_neg ha] at outer bound
    obtain ⟨d, hd, exact⟩ := exists_add_pi h (by linarith) (by linarith)
    exact halfTurned_of_exact h hd (by rw [turnedHalf_of_neg ha, exact])

/-- From the inner half half a turn leads to the outer half of the other side, rounded. -/
theorem halfTurned_inner (h : a.isFinite = true) (inner : |a.toRat| < halfTurn / 2) :
    halfTurn / 2 ≤ |(halfTurned a).toRat| ∧ ((halfTurned a).toRat < 0 ↔ 0 ≤ a.toRat) ∧
      |(halfTurned a).toRat - turnedHalf a.toRat| ≤ 1 / 2 ^ 52 := by
  have positive := halfTurn_pos
  obtain ⟨low, high⟩ := abs_lt.mp inner
  obtain ⟨hfinite, low', high'⟩ := halfTurned_bounds h (by linarith) (by linarith)
  obtain ⟨u, hu, hhalf⟩ := exists_half_pi
  obtain ⟨s, hs⟩ := exists_halfTurned h
  have error : |(halfTurned a).toRat - turnedHalf a.toRat| ≤ 1 / 2 ^ 52 := by
    have small : |turnedHalf a.toRat| < 2 ^ (-51 + 53 : Int) := by
      obtain ⟨low, high⟩ := turnedHalf_bounds (q := a.toRat) (by linarith) (by linarith)
      calc |turnedHalf a.toRat| ≤ halfTurn := abs_le.mpr ⟨low, high⟩
        _ < 2 ^ (-51 + 53 : Int) := by norm_num [halfTurn]
    rw [hs] at hfinite ⊢
    have := abs_round_sub_le (by norm_num) small hfinite
    norm_num at this ⊢
    exact this
  rcases le_or_gt 0 a.toRat with ha | ha
  · have outer : (halfTurned a).toRat ≤ -(halfTurn / 2) := by
      rw [turnedHalf_of_nonneg ha] at hs
      rw [hs, ← hhalf, ← toRat_neg]
      exact (round_between isFinite_neg_pi (by rwa [isFinite_neg])
        (by rw [toRat_neg_pi]; linarith) (by rw [toRat_neg]; linarith) s).2.2
    have neg : (halfTurned a).toRat < 0 := by linarith
    exact ⟨by rw [abs_of_neg neg]; linarith, iff_of_true neg ha, error⟩
  · have outer : halfTurn / 2 ≤ (halfTurned a).toRat := by
      rw [turnedHalf_of_neg ha] at hs
      rw [hs, ← hhalf]
      exact (round_between hu isFinite_pi (by linarith) (by rw [toRat_pi]; linarith) s).2.1
    have pos : 0 < (halfTurned a).toRat := by linarith
    exact ⟨by rw [abs_of_pos pos]; exact outer, iff_of_false pos.not_gt ha.not_ge, error⟩

/-- An opposite heading is half a turn away, or the least one instead of `π`. -/
theorem oppositeHeading_of_heading (h : a.isFinite = true) (hin : isHeading a = true) :
    ((halfTurned a).toRat < halfTurn ∧ oppositeHeading a = halfTurned a) ∨
      ((halfTurned a).toRat = halfTurn ∧ oppositeHeading a = -pi) := by
  obtain ⟨low, high⟩ := (isHeading_iff h).mp hin
  obtain ⟨hfinite, -, hle⟩ := halfTurned_bounds h low high.le
  have hlt : Scalar.lt (halfTurned a) pi = true ↔ (halfTurned a).toRat < halfTurn := by
    rw [lt_iff hfinite isFinite_pi, toRat_pi]
  simp only [oppositeHeading, hin, if_true]
  change _ ∧ (if Scalar.lt (halfTurned a) pi = true then _ else -pi) = _ ∨
    _ ∧ (if Scalar.lt (halfTurned a) pi = true then _ else -pi) = _
  rcases hle.lt_or_eq with hne | heq
  · exact .inl ⟨hne, if_pos (hlt.mpr hne)⟩
  · exact .inr ⟨heq, if_neg (hlt.not.mpr heq.not_lt)⟩

theorem isHeading_neg_pi : isHeading (-pi) = true :=
  (isHeading_iff isFinite_neg_pi).mpr
    ⟨toRat_neg_pi.ge, by rw [toRat_neg_pi]; linarith [halfTurn_pos]⟩

theorem oppositeHeading_eq (a : Double) : oppositeHeading a =
    if Scalar.lt (halfTurned (if isHeading a then a else headingOf a)) pi then
      halfTurned (if isHeading a then a else headingOf a) else -pi := rfl

theorem isHeading_oppositeHeading (h : a.isFinite = true) :
    (oppositeHeading a).isFinite = true ∧ isHeading (oppositeHeading a) = true := by
  obtain ⟨b, hb, hfinite, low, high⟩ : ∃ b, (if isHeading a then a else headingOf a) = b ∧
      b.isFinite = true ∧ -halfTurn ≤ b.toRat ∧ b.toRat ≤ halfTurn := by
    split_ifs with hin
    · obtain ⟨low, high⟩ := (isHeading_iff h).mp hin
      exact ⟨a, rfl, h, low, high.le⟩
    · exact ⟨_, rfl, headingOf_le_pi h⟩
  obtain ⟨hturned, low', -⟩ := halfTurned_bounds hfinite low high
  rw [oppositeHeading_eq, hb]
  split_ifs with hlt
  · rw [lt_iff hturned isFinite_pi, toRat_pi] at hlt
    exact ⟨hturned, (isHeading_iff hturned).mpr ⟨low', hlt⟩⟩
  · exact ⟨isFinite_neg_pi, isHeading_neg_pi⟩

/-- On the outer half the opposite heading is exact. -/
theorem oppositeHeading_outer (h : a.isFinite = true) (hin : isHeading a = true)
    (outer : halfTurn / 2 ≤ |a.toRat|) : (oppositeHeading a).toRat = turnedHalf a.toRat := by
  have positive := halfTurn_pos
  obtain ⟨low, high⟩ := (isHeading_iff h).mp hin
  obtain ⟨-, exact⟩ := halfTurned_outer h outer (abs_le.mpr ⟨low, high.le⟩)
  rcases oppositeHeading_of_heading h hin with ⟨-, heq⟩ | ⟨hend, -⟩
  · rw [heq, exact]
  · exfalso
    rw [exact] at hend
    rcases le_or_gt 0 a.toRat with ha | ha
    · rw [turnedHalf_of_nonneg ha] at hend
      linarith
    · rw [turnedHalf_of_neg ha] at hend
      linarith

theorem oppositeHeading_twice_outer (h : a.isFinite = true) (hin : isHeading a = true)
    (outer : halfTurn / 2 ≤ |a.toRat|) : oppositeHeading (oppositeHeading a) = a := by
  have positive := halfTurn_pos
  obtain ⟨low, high⟩ := (isHeading_iff h).mp hin
  obtain ⟨hb, hbin⟩ := isHeading_oppositeHeading h
  have back : turnedHalf (oppositeHeading a).toRat = a.toRat := by
    rw [oppositeHeading_outer h hin outer, turnedHalf_twice low high]
  obtain ⟨hfinite, exact⟩ := halfTurned_of_exact hb h back.symm
  rw [back] at exact
  rcases oppositeHeading_of_heading hb hbin with ⟨-, heq⟩ | ⟨hend, -⟩
  · rw [heq]
    refine eq_of_toRat hfinite h exact ?_
    rw [exact]
    exact abs_pos.mp (by linarith)
  · linarith

theorem oppositeHeading_twice_inner (h : a.isFinite = true) (hin : isHeading a = true)
    (inner : |a.toRat| < halfTurn / 2) :
    |(oppositeHeading (oppositeHeading a)).toRat - a.toRat| ≤ 1 / 2 ^ 52 := by
  have positive := halfTurn_pos
  obtain ⟨hb, hbin⟩ := isHeading_oppositeHeading h
  obtain ⟨outer, side, error⟩ := halfTurned_inner h inner
  rcases oppositeHeading_of_heading h hin with ⟨-, heq⟩ | ⟨hend, heq⟩
  · rw [heq] at hb hbin ⊢
    rw [oppositeHeading_outer hb hbin outer]
    rcases le_or_gt 0 a.toRat with ha | ha
    · rw [turnedHalf_of_nonneg ha] at error
      rwa [turnedHalf_of_neg (side.mpr ha), ← sub_sub_eq_add_sub]
    · rw [turnedHalf_of_neg ha] at error
      rwa [turnedHalf_of_nonneg (not_lt.mp (side.not.mpr ha.not_ge)), sub_sub, add_comm]
  · -- a small negative heading is rounded to `π`, and the least heading back to zero
    have ha : a.toRat < 0 := by
      by_contra! ha
      have := side.mpr ha
      linarith
    rw [hend, turnedHalf_of_neg ha] at error
    rw [heq, oppositeHeading_outer isFinite_neg_pi isHeading_neg_pi
      (by rw [toRat_neg_pi, abs_neg, abs_of_pos positive]; linarith), toRat_neg_pi,
      turnedHalf_of_neg (by linarith), neg_add_cancel, zero_sub]
    rwa [sub_add_cancel_right] at error

/-- What two half turns make of an angle: the results `b` and `c` are headings, and if the angle is
one, the second result is the same on the outer half and close by on the inner one. -/
structure TurnsBack (a b c : Double) : Prop where
  first : isHeading b = true
  second : isHeading c = true
  exact : isHeading a = true → halfTurn / 2 ≤ |a.toRat| → c = a
  close : isHeading a = true → |c.toRat - a.toRat| ≤ 1 / 2 ^ 52

theorem TurnsBack.opposite (h : a.isFinite = true) :
    TurnsBack a (oppositeHeading a) (oppositeHeading (oppositeHeading a)) := by
  obtain ⟨hfinite, hin⟩ := isHeading_oppositeHeading h
  refine ⟨hin, (isHeading_oppositeHeading hfinite).2, oppositeHeading_twice_outer h, fun ha => ?_⟩
  rcases le_or_gt (halfTurn / 2) |a.toRat| with outer | inner
  · rw [oppositeHeading_twice_outer h ha outer, sub_self, abs_zero]
    norm_num
  · exact oppositeHeading_twice_inner h ha inner

/-- An opposite heading is in range, and its own opposite heading is the first one again, exactly on
the outer half and off by half a place of `π` at most on the inner half. So are the headings, the
Euler angles and the poses that the turned frame changes. -/
theorem opposite_headings_turn_back :
    (∀ a : Double, a.isFinite = true →
      TurnsBack a (oppositeHeading a) (oppositeHeading (oppositeHeading a))) ∧
    ∀ f : Frame, f.turned = true →
      (∀ a : Double, a.isFinite = true → f.givenHeading (.real a) = .ok (.real (f.heading a)) ∧
        TurnsBack a (f.heading a) (f.heading (f.heading a))) ∧
      (∀ v : Vec3 Double, v.z.isFinite = true →
        f.givenEuler (.spatial v) = .ok (.spatial (f.euler v)) ∧
          TurnsBack v.z (f.euler v).z (f.euler (f.euler v)).z) ∧
      ∀ p : Pose Double, p.rotation.isFinite = true →
        f.givenPose p.given = .ok (f.pose p).given ∧
          TurnsBack p.rotation (f.pose p).rotation (f.pose (f.pose p)).rotation := by
  refine ⟨fun a h => .opposite h, fun f hf => ?_⟩
  obtain rfl : f = ⟨true⟩ := by rw [← hf]
  exact ⟨fun a h => ⟨rfl, .opposite h⟩, fun v h => ⟨rfl, .opposite h⟩,
    fun p h => ⟨Frame.givenPose_given _ p, .opposite h⟩⟩

theorem opposite_headings_turn_back_rounded :
    (oppositeHeading (oppositeHeading (-2.0 : Double)) = -2.0) ∧
      |(oppositeHeading (oppositeHeading (-1e-17 : Double))).toRat - (-1e-17 : Double).toRat| ≤
        1 / 2 ^ 52 ∧
      isHeading (oppositeHeading (1e300 : Double)) = true ∧
      isHeading ((⟨true⟩ : Frame).pose ⟨(-1e-17 : Double), Vec2.zero⟩).rotation = true := by
  obtain ⟨plain, turned⟩ := opposite_headings_turn_back
  refine ⟨(plain (-2.0) (by decide +kernel)).exact (by decide +kernel) (by decide +kernel),
    (plain (-1e-17) (by decide +kernel)).close (by decide +kernel),
    (plain 1e300 (by decide +kernel)).first, ?_⟩
  exact ((turned ⟨true⟩ rfl).2.2 ⟨-1e-17, Vec2.zero⟩ (by decide +kernel)).2.first

end RobotSoccer
