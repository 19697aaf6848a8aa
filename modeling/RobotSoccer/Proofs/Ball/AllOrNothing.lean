import RobotSoccer.Proofs.Ball.Likeness
import RobotSoccer.Proofs.Numeric.Magnitude
import RobotSoccer.Proofs.Numeric.Sign

/-! A sample is taken whole or not at all. An update refuses a time that is too long after the last
sample before it writes anything, and past that point nothing can fail as long as times do not go
back. -/
namespace RobotSoccer.Ball.Model

/-- The models that updates at integer times, failed ones included, and fresh starts come to. -/
inductive Timed : Model Double → Prop
  | fresh : Timed .fresh
  | update {m : Model Double} (h : Timed m) (g : Generator Double) (p : Vec3 Double) (t : Int) :
      Timed (m.update g p (.int t)).model

/-- The time since the last sample is not within the range of a double. -/
def TooLong (m : Model Double) (t : Int) : Prop :=
  ∃ q s, m.sample = some ⟨q, .int s⟩ ∧ s < t ∧ (Scalar.ofInt? (t - s) : Option Double) = none

variable {m : Model Double} {g : Generator Double} {v : Vec3 Double} {t d : Int} {e : Double}

/-- The last sample is of an integer time. -/
theorem Timed.sample (h : m.Timed) {last : Sample Double} (hs : m.sample = some last) :
    ∃ s : Int, last.time = .int s := by
  induction h generalizing last with
  | fresh => cases hs
  | @update m _ g p t ih =>
    obtain kept | taken := sample_update m g p (.int t)
    · exact ih (kept.symm.trans hs)
    · rw [taken] at hs
      cases hs
      exact ⟨t, rfl⟩

theorem isZero_elapsed (hd : 0 < d) (he : (Scalar.ofInt? d : Option Double) = some e) :
    Scalar.isZero e = false := by
  rw [Double.scalar_isZero]
  exact Double.isZero_ofInt hd he

theorem velocityOver_fits (hd : 0 < d) (he : (Scalar.ofInt? d : Option Double) = some e)
    (step : Vec3 Double) : ∃ v, velocityOver step (.int d) = .ok v := by
  simp [velocityOver, Number.toReal, he, Vec3.divide, Scalar.divide, isZero_elapsed hd he, bind,
    Except.bind, pure, Except.pure]

theorem velocityOver_tooLong (he : (Scalar.ofInt? d : Option Double) = none)
    (step : Vec3 Double) : velocityOver step (.int d) = .error .overflow := by
  simp [velocityOver, Number.toReal, he, bind, Except.bind]

/-- The spread of a curve angle has no minus sign. -/
theorem curveSpread_fits (hd : 0 < d) (he : (Scalar.ofInt? d : Option Double) = some e) :
    ∃ spread : Double, curveSpread (.int d) = .ok spread ∧ Scalar.isNegative spread = false := by
  have elapsed : e.isNegative = false := Double.isNegative_ofInt hd.le he
  have perSecond : (0.015 : Double).isNegative = false := by decide +kernel
  have second : (1000.0 : Double).isNegative = false := by decide +kernel
  refine ⟨0.015 * e / 1000.0, ?_, ?_⟩
  · simp [curveSpread, Number.toReal, he, curveSpreadPerSecond, millisecondsPerSecond, bind,
      Except.bind, pure, Except.pure]
  · exact Double.isNegative_div (Double.isNegative_mul perSecond elapsed) second

theorem curve_fits (reliable : g.Reliable) (hd : 0 < d)
    (he : (Scalar.ofInt? d : Option Double) = some e) (m : Model Double) (v : Vec3 Double) :
    ∃ angle calls, m.curve g v (.int d) = (.ok angle, { g with calls := g.calls ++ calls }) ∧
      ∀ call ∈ calls, Scalar.isNegative call.2 = false := by
  cases standing : v.isLevelZero with
  | true => exact ⟨0.0, [], by rw [curve_of_standing standing, List.append_nil], by simp⟩
  | false =>
    cases rolling : m.rolling with
    | true =>
      exact ⟨m.curveAngle, [], by rw [curve_of_rolling standing rolling, List.append_nil], by simp⟩
    | false =>
      obtain ⟨spread, hspread, hsign⟩ := curveSpread_fits hd he
      obtain ⟨angle, hangle⟩ := reliable g.calls 0.0 spread hsign
      refine ⟨angle, [(0.0, spread)], ?_, by simp [hsign]⟩
      simp only [curve, standing, rolling, hspread, Bool.false_eq_true, if_false]
      exact Prod.ext hangle rfl

/-- The time of the last sample step is all that a failed update touches, and no update reads it. -/
theorem update_forgets (m : Model Double) (g : Generator Double) (p : Vec3 Double)
    (time : Value Double) :
    ({ m with lastElapsed := none } : Model Double).update g p time = m.update g p time := rfl

/-- What an update leaves behind that takes its sample: nothing but the curve angle is drawn, and not
with a negative spread. -/
structure Taken (m : Model Double) (g : Generator Double) (p : Vec3 Double) (t : Int)
    (u : Update Double) : Prop where
  outcome : u.outcome = .ok u.model.velocity
  sample : u.model.sample = some ⟨p, .int t⟩
  rolling : u.model.rolling = !u.model.velocity.isLevelZero
  generator : ∃ calls, u.generator = { g with calls := g.calls ++ calls } ∧
    ∀ call ∈ calls, Scalar.isNegative call.2 = false
  fits : ¬ m.TooLong t

theorem taken_of_held (hs : m.since? (.int t) = .ok none) (fits : ¬ m.TooLong t)
    (p : Vec3 Double) : m.Taken g p t (m.update g p (.int t)) := by
  rw [update_held hs]
  exact ⟨rfl, rfl, rfl, ⟨[], by simp, by simp⟩, fits⟩

/-- An update no earlier than the last sample takes its sample, unless its time is too long after
that one. -/
theorem update_taken_or_refused (h : m.Timed) (reliable : g.Reliable) (p : Vec3 Double)
    (later : ∀ q s, m.sample = some ⟨q, .int s⟩ → s ≤ t) :
    m.Taken g p t (m.update g p (.int t)) ∨ m.TooLong t ∧
      m.update g p (.int t) = ⟨.error .overflow, { m with lastElapsed := none }, g⟩ := by
  cases hs : m.sample with
  | none =>
    have fits : ¬ m.TooLong t := by
      rintro ⟨q, s, hq, -⟩
      cases hs.symm.trans hq
    exact .inl (taken_of_held (since?_of_no_sample hs _) fits p)
  | some last =>
    obtain ⟨q, time⟩ := last
    obtain ⟨s, hs'⟩ := h.sample hs
    cases hs'
    have hsince := since?_int hs t
    have only : ∀ q' s', m.sample = some ⟨q', .int s'⟩ → s' = s := by
      intro q' s' hq
      cases hs.symm.trans hq
      rfl
    by_cases same : t = s
    · have fits : ¬ m.TooLong t := by
        rintro ⟨q', s', hq, hlt, -⟩
        have := only q' s' hq
        omega
      rw [if_pos same] at hsince
      exact .inl (taken_of_held hsince fits p)
    · have hd : 0 < t - s := by
        have := later q s hs
        omega
      rw [if_neg same] at hsince
      cases he : (Scalar.ofInt? (t - s) : Option Double) with
      | none =>
        refine .inr ⟨⟨q, s, hs, by omega, he⟩, ?_⟩
        rw [← hs]
        exact update_unmoved hsince (velocityOver_tooLong he _)
      | some e =>
        obtain ⟨v, hv⟩ := velocityOver_fits hd he (p - q)
        obtain ⟨angle, calls, hc, hcalls⟩ := curve_fits reliable hd he m v
        rw [update_moved hsince hv hc]
        refine .inl ⟨rfl, rfl, rfl, ⟨calls, rfl, hcalls⟩, ?_⟩
        rintro ⟨q', s', hq, -, hnone⟩
        rw [only q' s' hq, he] at hnone
        cases hnone

/-- A model that has been fed integer times, and a generator that refuses nothing but a spread with
a minus sign: an update no earlier than the last sample asks for no such spread, and fails just if
the time since then is not within the range of a double. It then touches nothing but the time
between samples, so that every later update goes as if it had not been made. -/
theorem sample_all_or_nothing (h : m.Timed) (reliable : g.Reliable) (p : Vec3 Double)
    (later : ∀ q s, m.sample = some ⟨q, .int s⟩ → s ≤ t) :
    let u := m.update g p (.int t)
    (∃ calls, u.generator = { g with calls := g.calls ++ calls } ∧
      ∀ call ∈ calls, Scalar.isNegative call.2 = false) ∧
    (∀ v, u.outcome = .ok v → u.model.velocity = v ∧ u.model.sample = some ⟨p, .int t⟩ ∧
      u.model.rolling = !v.isLevelZero) ∧
    ((∃ fault, u.outcome = .error fault) ↔ m.TooLong t) ∧
    ∀ fault, u.outcome = .error fault → fault = .overflow ∧
      u.model = { m with lastElapsed := none } ∧ u.generator = g ∧
        ∀ g' p' time, u.model.update g' p' time = m.update g' p' time := by
  intro u
  obtain taken | ⟨tooLong, refused⟩ := update_taken_or_refused h reliable p later
  · change m.Taken g p t u at taken
    refine ⟨taken.generator, ?_, ?_, ?_⟩
    · intro v hv
      obtain rfl := Except.ok.inj (taken.outcome.symm.trans hv)
      exact ⟨rfl, taken.sample, taken.rolling⟩
    · refine ⟨?_, fun tooLong => absurd tooLong taken.fits⟩
      rintro ⟨fault, hfault⟩
      cases taken.outcome.symm.trans hfault
    · intro fault hfault
      cases taken.outcome.symm.trans hfault
  · change u = _ at refused
    rw [refused]
    refine ⟨⟨[], by simp, by simp⟩, ?_, ⟨fun _ => tooLong, fun _ => ⟨_, rfl⟩⟩, ?_⟩
    · intro v hv
      cases hv
    · intro fault hfault
      cases hfault
      exact ⟨rfl, rfl, rfl, update_forgets m⟩

/-- A second sample at a time that no double can hold. -/
theorem sample_all_or_nothing_out_of_range :
    let g : Generator Double := .ofScript [.real 1.0]
    let m := (Model.fresh.update g Vec3.zero (.int 0)).model
    let u := m.update g ⟨1.0, 0.0, 0.0⟩ (.int (10 ^ 400))
    u.outcome = .error .overflow ∧
      ∀ g' p' time, u.model.update g' p' time = m.update g' p' time := by
  intro g m u
  have timed : m.Timed := .update .fresh g Vec3.zero 0
  have reliable : g.Reliable := Generator.reliable_ofScript (by simp) (by simpa using ⟨1.0, rfl⟩)
  have tooLong : m.TooLong (10 ^ 400) := ⟨Vec3.zero, 0, rfl, by norm_num, by decide +kernel⟩
  have later : ∀ q s, m.sample = some ⟨q, .int s⟩ → s ≤ 10 ^ 400 := by
    intro q s hs
    cases hs
    norm_num
  obtain ⟨-, -, fails, failed⟩ := sample_all_or_nothing timed reliable ⟨1.0, 0.0, 0.0⟩ later
  obtain ⟨fault, hfault⟩ := fails.mpr tooLong
  obtain ⟨rfl, -, -, undone⟩ := failed fault hfault
  exact ⟨hfault, undone⟩

end RobotSoccer.Ball.Model
