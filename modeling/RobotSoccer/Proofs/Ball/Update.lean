import RobotSoccer.Ball.Model
import RobotSoccer.Proofs.Outcome

/-! What one update of a ball model does, case by case: it holds the velocity, fails before the
velocity is known, fails to draw a curve angle, or moves on. -/
namespace RobotSoccer.Ball.Model

variable {K : Type} [Scalar K] {m : Model K} {g : Generator K} {p v : Vec3 K} {time : Value K}
  {last : Sample K} {elapsed : Number K} {fault : Fault}

/-- The times that runs feed are integers; a second one is new unless it is the last one. -/
theorem since?_int {q : Vec3 K} {u : Int} (h : m.sample = some ⟨q, .int u⟩) (t : Int) :
    m.since? (.int t) = .ok (if t = u then none else some (⟨q, .int u⟩, .int (t - u))) := by
  simp only [since?, timed?, h, Value.same_int, bind, Except.bind]
  by_cases e : t = u
  · simp [e, pure, Except.pure]
  · simp [e, pure, Except.pure, Value.number, Value.number?, Number.sub, Number.combine]

theorem since?_of_no_sample (h : m.sample = none) (time : Value K) :
    m.since? time = .ok none := by
  simp [since?, timed?, h]

theorem sample_of_since? (h : m.since? time = .ok (some (last, elapsed))) :
    m.sample = some last := by
  unfold since? at h
  cases ht : m.timed? with
  | none => simp [ht] at h
  | some found =>
    obtain rfl : found = last := by
      rw [ht] at h
      obtain ⟨same, -, h⟩ := ok_of_bind h
      cases same with
      | true => cases h
      | false =>
        obtain ⟨now, -, h⟩ := ok_of_bind h
        obtain ⟨before, -, h⟩ := ok_of_bind h
        obtain ⟨gap, -, h⟩ := ok_of_bind h
        cases h
        rfl
    unfold timed? at ht
    split at ht
    · cases ht
    · exact ht

theorem update_timeless (h : m.since? time = .error fault) :
    m.update g p time = ⟨.error fault, { m with lastElapsed := none }, g⟩ := by
  simp [update, h]

theorem update_held (h : m.since? time = .ok none) :
    m.update g p time =
      ⟨.ok m.velocity, { m with
        lastElapsed := none
        sample := some ⟨p, time⟩
        rolling := !m.velocity.isLevelZero }, g⟩ := by
  simp [update, h, settle]

theorem update_unmoved (hs : m.since? time = .ok (some (last, elapsed)))
    (hv : velocityOver (p - last.position) elapsed = .error fault) :
    m.update g p time = ⟨.error fault, { m with lastElapsed := none }, g⟩ := by
  simp [update, hs, hv]

theorem update_undrawn {g' : Generator K} (hs : m.since? time = .ok (some (last, elapsed)))
    (hv : velocityOver (p - last.position) elapsed = .ok v)
    (hc : m.curve g v elapsed = (.error fault, g')) :
    m.update g p time =
      ⟨.error fault, { m with velocity := v, lastElapsed := some elapsed }, g'⟩ := by
  change curve { m with velocity := v, lastElapsed := some elapsed } g v elapsed = _ at hc
  simp [update, hs, hv, hc]

theorem update_moved {angle : K} {g' : Generator K}
    (hs : m.since? time = .ok (some (last, elapsed)))
    (hv : velocityOver (p - last.position) elapsed = .ok v)
    (hc : m.curve g v elapsed = (.ok angle, g')) :
    m.update g p time =
      ⟨.ok v, ⟨v, angle, !v.isLevelZero, some ⟨p, time⟩, some elapsed⟩, g'⟩ := by
  change curve { m with velocity := v, lastElapsed := some elapsed } g v elapsed = _ at hc
  simp [update, hs, hv, hc, settle]

/-- The ways in which an update can go, with what each one leaves behind. -/
inductive Course (m : Model K) (g : Generator K) (p : Vec3 K) (time : Value K) : Update K → Prop
  | timeless {fault : Fault} (hs : m.since? time = .error fault) :
      Course m g p time ⟨.error fault, { m with lastElapsed := none }, g⟩
  | held (hs : m.since? time = .ok none) :
      Course m g p time ⟨.ok m.velocity, { m with
        lastElapsed := none
        sample := some ⟨p, time⟩
        rolling := !m.velocity.isLevelZero }, g⟩
  | unmoved {last : Sample K} {elapsed : Number K} {fault : Fault}
      (hs : m.since? time = .ok (some (last, elapsed)))
      (hv : velocityOver (p - last.position) elapsed = .error fault) :
      Course m g p time ⟨.error fault, { m with lastElapsed := none }, g⟩
  | undrawn {last : Sample K} {elapsed : Number K} {v : Vec3 K} {fault : Fault} {g' : Generator K}
      (hs : m.since? time = .ok (some (last, elapsed)))
      (hv : velocityOver (p - last.position) elapsed = .ok v)
      (hc : m.curve g v elapsed = (.error fault, g')) :
      Course m g p time
        ⟨.error fault, { m with velocity := v, lastElapsed := some elapsed }, g'⟩
  | moved {last : Sample K} {elapsed : Number K} {v : Vec3 K} {angle : K} {g' : Generator K}
      (hs : m.since? time = .ok (some (last, elapsed)))
      (hv : velocityOver (p - last.position) elapsed = .ok v)
      (hc : m.curve g v elapsed = (.ok angle, g')) :
      Course m g p time ⟨.ok v, ⟨v, angle, !v.isLevelZero, some ⟨p, time⟩, some elapsed⟩, g'⟩

theorem update_course (m : Model K) (g : Generator K) (p : Vec3 K) (time : Value K) :
    Course m g p time (m.update g p time) := by
  cases hs : m.since? time with
  | error fault => exact update_timeless hs ▸ .timeless hs
  | ok found =>
    cases found with
    | none => exact update_held hs ▸ .held hs
    | some pair =>
      obtain ⟨last, elapsed⟩ := pair
      cases hv : velocityOver (p - last.position) elapsed with
      | error fault => exact update_unmoved hs hv ▸ .unmoved hs hv
      | ok v =>
        rcases hc : m.curve g v elapsed with ⟨fault | angle, g'⟩
        · exact update_undrawn hs hv hc ▸ .undrawn hs hv hc
        · exact update_moved hs hv hc ▸ .moved hs hv hc

/-- An update that answers either holds the velocity or moves on to a new one. -/
theorem update_answered {w : Vec3 K} (h : (m.update g p time).outcome = .ok w) :
    m.since? time = .ok none ∨
      ∃ last elapsed angle g', m.since? time = .ok (some (last, elapsed)) ∧
        velocityOver (p - last.position) elapsed = .ok w ∧
        m.curve g w elapsed = (.ok angle, g') := by
  have course := update_course m g p time
  generalize m.update g p time = update at course h
  cases course with
  | held hs => exact .inl hs
  | moved hs hv hc =>
    cases h
    exact .inr ⟨_, _, _, _, hs, hv, hc⟩
  | timeless => cases h
  | unmoved => cases h
  | undrawn => cases h

/-- An update that answers keeps its position as the last sample. -/
theorem sample_of_update {w : Vec3 K} (h : (m.update g p time).outcome = .ok w) :
    (m.update g p time).model.sample = some ⟨p, time⟩ := by
  rcases update_answered h with hs | ⟨last, elapsed, angle, g', hs, hv, hc⟩
  · rw [update_held hs]
  · rw [update_moved hs hv hc]

/-- An update that answers tells the time since the last sample. -/
theorem lastElapsed_of_update {w : Vec3 K} (h : (m.update g p time).outcome = .ok w) :
    ∃ found, m.since? time = .ok found ∧
      (m.update g p time).model.lastElapsed = found.map Prod.snd := by
  rcases update_answered h with hs | ⟨last, elapsed, angle, g', hs, hv, hc⟩
  · exact ⟨none, hs, by rw [update_held hs]; rfl⟩
  · exact ⟨some (last, elapsed), hs, by rw [update_moved hs hv hc]; rfl⟩

/-- The velocity over a step, where it has one. -/
theorem velocityOver_int {step w : Vec3 K} {d : Int} (h : velocityOver step (.int d) = .ok w) :
    ∃ e : K, Scalar.ofInt? d = some e ∧
      w = ⟨step.x * 1000.0 / e, step.y * 1000.0 / e, step.z * 1000.0 / e⟩ := by
  cases he : (Scalar.ofInt? d : Option K) with
  | none => simp [velocityOver, Number.toReal, he, bind, Except.bind] at h
  | some e =>
    refine ⟨e, rfl, ?_⟩
    by_cases hz : Scalar.isZero e = true
    · simp [velocityOver, Number.toReal, he, bind, Except.bind, Vec3.divide, Scalar.divide, hz] at h
    · simpa [velocityOver, Number.toReal, he, bind, Except.bind, Vec3.divide, Scalar.divide, hz,
        pure, Except.pure, Vec3.scale, millisecondsPerSecond, eq_comm] using h

theorem curve_of_standing (h : v.isLevelZero = true) : m.curve g v elapsed = (.ok 0.0, g) := by
  simp [curve, h]

theorem curve_of_rolling (h : v.isLevelZero = false) (hm : m.rolling = true) :
    m.curve g v elapsed = (.ok m.curveAngle, g) := by
  simp [curve, h, hm]

/-- A ball that starts to roll takes one draw. -/
theorem curve_of_starting {angle : K} {g' : Generator K} (h : v.isLevelZero = false)
    (hm : m.rolling = false) (hc : m.curve g v elapsed = (.ok angle, g')) :
    ∃ spread, curveSpread elapsed = .ok spread ∧ g.draw 0.0 spread = .ok angle ∧
      g' = g.record 0.0 spread := by
  cases hs : (curveSpread elapsed : Except Fault K) with
  | error fault => simp [curve, h, hm, hs] at hc
  | ok spread =>
    simp only [curve, h, hm, hs, Bool.false_eq_true, if_false, Prod.mk.injEq] at hc
    exact ⟨spread, rfl, hc.1, hc.2.symm⟩

theorem curveSpread_int {d : Int} {spread : K} (h : curveSpread (.int d) = .ok spread) :
    ∃ e : K, Scalar.ofInt? d = some e ∧ spread = 0.015 * e / 1000.0 := by
  cases he : (Scalar.ofInt? d : Option K) with
  | none => simp [curveSpread, Number.toReal, he, bind, Except.bind] at h
  | some e =>
    refine ⟨e, rfl, ?_⟩
    simpa [curveSpread, Number.toReal, he, bind, Except.bind, pure, Except.pure,
      curveSpreadPerSecond, millisecondsPerSecond, eq_comm] using h

theorem curve_generator (m : Model K) (g : Generator K) (v : Vec3 K) (elapsed : Number K) :
    ∃ calls, (m.curve g v elapsed).2 = { g with calls := g.calls ++ calls } := by
  unfold curve
  split
  · exact ⟨[], by simp⟩
  · split
    · exact ⟨[], by simp⟩
    · split
      · exact ⟨[], by simp⟩
      · exact ⟨[_], rfl⟩

/-- An update takes its own sample or keeps the last one. -/
theorem sample_update (m : Model K) (g : Generator K) (p : Vec3 K) (time : Value K) :
    (m.update g p time).model.sample = m.sample ∨
      (m.update g p time).model.sample = some ⟨p, time⟩ := by
  have course := update_course m g p time
  generalize m.update g p time = update at course ⊢
  cases course with
  | held => exact .inr rfl
  | moved => exact .inr rfl
  | timeless => exact .inl rfl
  | unmoved => exact .inl rfl
  | undrawn => exact .inl rfl

/-- An update calls the generator, if at all, and changes it in no other way. -/
theorem update_generator (m : Model K) (g : Generator K) (p : Vec3 K) (time : Value K) :
    ∃ calls, (m.update g p time).generator = { g with calls := g.calls ++ calls } := by
  have same : ∃ calls, g = { g with calls := g.calls ++ calls } := ⟨[], by simp⟩
  have course := update_course m g p time
  generalize m.update g p time = update at course ⊢
  cases course with
  | timeless => exact same
  | held => exact same
  | unmoved => exact same
  | @undrawn _ elapsed v _ _ _ _ hc =>
    have drawn := curve_generator m g v elapsed
    rwa [hc] at drawn
  | @moved _ elapsed v _ _ _ _ hc =>
    have drawn := curve_generator m g v elapsed
    rwa [hc] at drawn

end RobotSoccer.Ball.Model
