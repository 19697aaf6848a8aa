import Mathlib
import RobotSoccer.Proofs.Ball.Update
import RobotSoccer.Proofs.Numeric.Number

/-! A model that is fed one place only, in exact arithmetic: it never estimates a velocity and never
draws a curve angle. -/
namespace RobotSoccer.Ball.Model

/-- Knows of no motion, and of no place but one. -/
structure Resting (m : Model ℝ) (place : Vec3 ℝ) : Prop where
  velocity : m.velocity = Vec3.zero
  curveAngle : m.curveAngle = 0
  sample : ∀ last, m.sample = some last → last.position = place

variable {m : Model ℝ} {place : Vec3 ℝ}

theorem Resting.fresh (place : Vec3 ℝ) : fresh.Resting place :=
  ⟨rfl, Exact.literal_zero, nofun⟩

theorem fresh_update_outcome (g : Generator ℝ) (place : Vec3 ℝ) (time : Value ℝ) :
    (fresh.update g place time).outcome = .ok Vec3.zero := by
  rw [update_held (since?_of_no_sample rfl time)]
  rfl

theorem velocityOver_still (place : Vec3 ℝ) (elapsed : Number ℝ) :
    velocityOver (place - place) elapsed =
      if elapsed.exactly = 0 then .error .divisionByZero else .ok Vec3.zero := by
  have hstep : (place - place).scale (millisecondsPerSecond : ℝ) = (⟨0, 0, 0⟩ : Vec3 ℝ) := by
    change (⟨(place.x - place.x) * _, (place.y - place.y) * _, (place.z - place.z) * _⟩ :
      Vec3 ℝ) = _
    simp only [sub_self, zero_mul]
  have hzero : Scalar.isZero elapsed.exactly = decide (elapsed.exactly = 0) := by
    rw [Bool.eq_iff_iff, decide_eq_true_eq, Scalar.isZero, Exact.eq_iff, Exact.literal_zero]
  rw [velocityOver, Number.toReal_exactly]
  change ((place - place).scale millisecondsPerSecond).divide elapsed.exactly = _
  rw [hstep, Vec3.divide]
  simp only [Scalar.divide, hzero]
  by_cases h : elapsed.exactly = 0
  · simp [h, bind, Except.bind]
  · simp [h, bind, Except.bind, pure, Except.pure, Vec3.zero]

theorem isLevelZero_zero : (Vec3.zero : Vec3 ℝ).isLevelZero = true := by
  rw [Vec3.isLevelZero, Bool.and_eq_true]
  exact ⟨Exact.eq_iff.mpr rfl, Exact.eq_iff.mpr rfl⟩

/-- An update with the same place answers no velocity, if anything, and keeps the model at rest. -/
theorem Resting.update (h : m.Resting place) (g : Generator ℝ) (time : Value ℝ) :
    (m.update g place time).model.Resting place ∧ (m.update g place time).generator = g ∧
      ∀ v, (m.update g place time).outcome = .ok v → v = Vec3.zero := by
  have held : Resting { m with lastElapsed := none } place := ⟨h.velocity, h.curveAngle, h.sample⟩
  cases hs : m.since? time with
  | error fault =>
    rw [update_timeless hs]
    exact ⟨held, rfl, nofun⟩
  | ok found =>
    cases found with
    | none =>
      rw [update_held hs]
      refine ⟨⟨h.velocity, h.curveAngle, ?_⟩, rfl, ?_⟩
      · rintro last ⟨⟩
        rfl
      · rintro v ⟨⟩
        exact h.velocity
    | some pair =>
      obtain ⟨last, elapsed⟩ := pair
      have hlast : last.position = place := h.sample last (sample_of_since? hs)
      cases hv : velocityOver (place - last.position) elapsed with
      | error fault =>
        rw [update_unmoved hs hv]
        exact ⟨held, rfl, nofun⟩
      | ok v =>
        obtain rfl : v = Vec3.zero := by
          rw [hlast, velocityOver_still] at hv
          split at hv
          · cases hv
          · exact (Except.ok.inj hv).symm
        rw [update_moved hs hv (curve_of_standing isLevelZero_zero)]
        refine ⟨⟨rfl, Exact.literal_zero, ?_⟩, rfl, ?_⟩
        · rintro last ⟨⟩
          rfl
        · rintro v ⟨⟩
          rfl

/-- At times that are numbers there is always an answer. -/
theorem Resting.update_answers (h : m.Resting place) (g : Generator ℝ) (n : Number ℝ)
    (timed : ∀ last, m.sample = some last → ∃ n : Number ℝ, last.time = n.toValue) :
    ∃ v, (m.update g place n.toValue).outcome = .ok v := by
  cases hm : m.sample with
  | none => exact ⟨m.velocity, by rw [update_held (since?_of_no_sample hm _)]⟩
  | some last =>
    obtain ⟨before, hbefore⟩ := timed last hm
    have htimed : m.timed? = some last := by
      obtain ⟨position, time⟩ := last
      obtain rfl : time = before.toValue := hbefore
      unfold timed?
      cases before <;> simp [hm, Number.toValue]
    obtain ⟨gap, hgap, hexact⟩ := n.sub_exactly before
    by_cases heq : n.exactly = before.exactly
    · have hs : m.since? n.toValue = .ok none := by
        simp [since?, htimed, hbefore, Number.same_toValue, heq, bind, Except.bind, pure,
          Except.pure]
      exact ⟨m.velocity, by rw [update_held hs]⟩
    · have hs : m.since? n.toValue = .ok (some (last, gap)) := by
        simp [since?, htimed, hbefore, Number.same_toValue, heq, hgap, bind, Except.bind, pure,
          Except.pure]
      have hv : velocityOver (place - last.position) gap = .ok Vec3.zero := by
        rw [h.sample last hm, velocityOver_still, if_neg (by rwa [hexact, sub_eq_zero])]
      exact ⟨_, by rw [update_moved hs hv (curve_of_standing isLevelZero_zero)]⟩

end RobotSoccer.Ball.Model
