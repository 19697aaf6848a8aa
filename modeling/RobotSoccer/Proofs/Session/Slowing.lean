import RobotSoccer.Proofs.Ball.Friction
import RobotSoccer.Proofs.Ball.Rolling
import RobotSoccer.Proofs.Config
import RobotSoccer.Proofs.Session.Look

/-! Robots that slow the ball down by the friction and over the step of the run's configuration.
What the configuration is checked for makes this safe, but for one thing: no friction over an
endless step is no number. -/
namespace RobotSoccer

open Double

section

variable {c : Config Double} {friction step : Double}

/-- The friction and the step of a configuration are these numbers. -/
structure Config.Slows (c : Config Double) (friction step : Double) : Prop where
  planar : c.variant = .planar
  friction : c.ballFriction = .real friction
  step : c.stepLength = .real step

/-- No friction over an endless step. -/
def Endless (friction step : Double) : Prop := friction.isZero = true ∧ step = .infinite false

theorem Config.Slows.check_eq_ok (h : c.Slows friction step) : c.check = .ok c ↔
    (Value.int 0).lt? c.robotsPerTeam = .ok true ∧ Scalar.lt 0.0 step = true ∧
      Scalar.le 0.0 friction = true := by
  rw [Config.check_eq_ok, h.step, h.friction, Value.zero_lt?_real, Value.zero_le?_real]
  simp

theorem nonneg_product (hf : Scalar.le 0.0 friction = true) (hs : Scalar.lt 0.0 step = true)
    (h : ¬Endless friction step) : Scalar.le 0.0 (friction * step) = true := by
  refine nonneg_mul hf (nonneg_of_zero_lt hs) ?_
  rw [ne_eq, mul_eq_nan_iff hf (nonneg_of_zero_lt hs), not_or]
  refine ⟨fun hend => ?_, h⟩
  rw [not_isZero_of_zero_lt hs] at hend
  exact absurd hend.2 Bool.false_ne_true

end

namespace Session

variable {s t : Session Double} {ball name : String} {friction step : Double} {v w : Vec2 Double}
  {robot : Robot Double}

/-- The ball has a velocity on the plane, and by default it is slowed down by this friction over
this step. -/
structure Rolls (s : Session Double) (ball : String) (friction step : Double) (v : Vec2 Double) :
    Prop where
  planar : s.run.variant = .planar
  ball_eq : s.run.ball = some ball
  friction_eq : s.run.ballFriction = .real friction
  step_eq : s.run.stepLength = .real step
  velocity : ∃ body, s.bodies.get ball = .ok body ∧ body.levelVelocity = .ok v

theorem Rolls.slowBall_eq (h : s.Rolls ball friction step v) :
    ∃ body : Body Double, s.slowBall none =
      (do return s.setBody ball { body with
        velocity := (← Ball.afterStep v (.real friction) (.real step)).toValue }) := by
  obtain ⟨body, hbody, hv⟩ := h.velocity
  refine ⟨body, ?_⟩
  rw [slowBall, ballBody?_of_get h.ball_eq hbody]
  change (do
    return s.setBody ball (← s.run.variant.slowBall s.run.ballFriction s.run.stepLength body)) = _
  rw [h.planar, h.friction_eq, h.step_eq, Variant.slowBall, hv]
  change (do
    let slower ← (do return { body with
      velocity := (← Ball.afterStep v (.real friction) (.real step)).toValue })
    return s.setBody ball slower) = _
  cases Ball.afterStep v (.real friction) (.real step) <;> rfl

/-- A step that gives a velocity is answered and leaves the ball with it. -/
theorem Rolls.step_ok (h : s.Rolls ball friction step v) (hname : s.robots.get name = .ok robot)
    (hw : Ball.afterStep v (.real friction) (.real step) = .ok w) :
    ∃ reply t, s.step (.slowBall name none) = (.ok reply, t) ∧ t.Rolls ball friction step w ∧
      t.robots = s.robots := by
  obtain ⟨body, hslow⟩ := h.slowBall_eq
  obtain ⟨slower, hslower⟩ : ∃ slower, slower = { body with velocity := w.toValue } := ⟨_, rfl⟩
  have hread : slower.levelVelocity = .ok w := by rw [hslower, Body.levelVelocity_toValue]
  have hset : (s.setBody ball slower).bodies.get ball = .ok slower :=
    Table.get_set_self s.bodies ball slower
  have reply : (s.setBody ball slower).ballReply name = .ok (.ball (some slower) robot.ball) := by
    have same : (s.setBody ball slower).robots.get name = .ok robot := hname
    rw [ballReply, ballBody?_of_get (s := s.setBody ball slower) h.ball_eq hset, same]
    rfl
  refine ⟨.ball (some slower) robot.ball, s.setBody ball slower, ?_,
    ⟨h.planar, h.ball_eq, h.friction_eq, h.step_eq, slower, hset, hread⟩, rfl⟩
  rw [Session.step, hname, hslow, hw]
  change s.commit (do
    return (← (s.setBody ball { body with velocity := w.toValue }).ballReply name,
      s.setBody ball { body with velocity := w.toValue })) = _
  rw [← hslower, reply]
  rfl

theorem Rolls.step_error (h : s.Rolls ball friction step v) (hname : s.robots.get name = .ok robot)
    {fault : Fault} (hw : Ball.afterStep v (.real friction) (.real step) = .error fault) :
    s.step (.slowBall name none) = (.error fault, s) := by
  obtain ⟨body, hslow⟩ := h.slowBall_eq
  rw [hw] at hslow
  rw [Session.step, hname, hslow]
  rfl

/-- Unless there is no friction over an endless step, any number of steps are answered. -/
theorem Rolls.steps_ok {names : List String} (h : s.Rolls ball friction step v) (hv : v.IsFinite)
    (hf : Scalar.le 0.0 friction = true) (hs : Scalar.lt 0.0 step = true)
    (hend : ¬Endless friction step)
    (made : ∀ name ∈ names, ∃ robot, s.robots.get name = .ok robot) :
    (∀ reply ∈ (s.steps (names.map fun name => .slowBall name none)).1, reply.isOk = true) ∧
      ∃ w, (s.steps (names.map fun name => .slowBall name none)).2.Rolls ball friction step w ∧
        v.TowardZero w := by
  induction names generalizing s v with
  | nil => exact ⟨by simp [steps], v, h, .refl hv⟩
  | cons name names ih =>
    obtain ⟨robot, hname⟩ := made name (by simp)
    obtain ⟨w, hw, toward, -⟩ := Ball.afterStep_toward hv hf (nonneg_product hf hs hend)
    obtain ⟨reply, t, hstep, ht, hrobots⟩ := h.step_ok hname hw
    obtain ⟨answered, w', hw', toward'⟩ := ih ht (toward.isFinite hv) fun name hmem => by
      rw [hrobots]
      exact made name (by simp [hmem])
    rw [List.map_cons, steps, hstep]
    exact ⟨List.forall_mem_cons.mpr ⟨rfl, answered⟩, w', hw', toward.trans toward'⟩

/-- No friction over an endless step takes no number from the speed. -/
theorem afterStep_endless (h : Endless friction step) :
    Ball.afterStep v (.real friction) (.real step) =
      if v.length.isZero then .error .divisionByZero else .ok ⟨.nan, .nan⟩ := by
  obtain ⟨hf, rfl⟩ := h
  have nonneg := nonneg_of_isZero hf
  have product : friction * .infinite false = .nan :=
    (mul_eq_nan_iff nonneg (nonneg_iff.mpr (.inl rfl))).mpr (.inr ⟨hf, rfl⟩)
  have left : Ball.remainingSpeed v .nan = .nan := sub_nan v.length
  have scaled : v.scale .nan = ⟨.nan, .nan⟩ := by rw [Vec2.scale, mul_nan, mul_nan]
  rw [Ball.afterStep_real, not_lt_zero_of_nonneg nonneg, product, left, ← scalar_isZero]
  change (if Scalar.le Double.nan 0.0 then _ else
    (do return v.scale (← Scalar.divide Double.nan v.length))) = _
  rw [if_neg (by decide +kernel), Scalar.divide]
  split_ifs
  · rfl
  · exact congrArg Except.ok scaled

/-- Robots slow the ball down by the friction and over the step of a configuration that is accepted.
Any number of times they get an answer, and the ball goes toward rest, unless there is no friction
over an endless step: then a resting ball divides by zero, and the velocity of a rolling one is no
number any more. -/
theorem default_friction_step {data : Value Double} {c : Config Double}
    (accepted : Config.ofValue data = .ok c) (slows : c.Slows friction step) {scene : Scene String}
    (run : s.run = { Run.ofConfig c scene with ball := some ball }) {body : Body Double}
    (hbody : s.bodies.get ball = .ok body) (hv : body.levelVelocity = .ok v)
    (finite : v.IsFinite) :
    (¬Endless friction step → ∀ names : List String,
      (∀ name ∈ names, ∃ robot, s.robots.get name = .ok robot) →
      let after := s.steps (names.map fun name => .slowBall name none)
      (∀ reply ∈ after.1, reply.isOk = true) ∧
        ∃ slower w, after.2.bodies.get ball = .ok slower ∧ slower.levelVelocity = .ok w ∧
          w.IsFinite ∧ v.TowardZero w) ∧
    (Endless friction step → ∀ name robot, s.robots.get name = .ok robot →
      let after := s.step (.slowBall name none)
      (v.length.isZero = true → after = (.error .divisionByZero, s)) ∧
        (v.length.isZero = false → after.1.isOk = true ∧
          ∃ lost, after.2.bodies.get ball = .ok lost ∧
            lost.levelVelocity = .ok ⟨.nan, .nan⟩)) := by
  obtain ⟨-, hs, hf⟩ := slows.check_eq_ok.mp (Config.check_of_value accepted)
  have rolls : s.Rolls ball friction step v := by
    refine ⟨?_, ?_, ?_, ?_, body, hbody, hv⟩ <;> rw [run]
    · exact slows.planar
    · exact slows.friction
    · exact slows.step
  refine ⟨fun hend names made => ?_, fun hend name robot hname =>
    ⟨fun hrest => ?_, fun hmoves => ?_⟩⟩
  · obtain ⟨answered, w, ⟨-, -, -, -, slower, hslower, hw⟩, toward⟩ :=
      rolls.steps_ok finite hf hs hend made
    exact ⟨answered, slower, w, hslower, hw, toward.isFinite finite, toward⟩
  · exact rolls.step_error hname (by rw [afterStep_endless hend, if_pos hrest])
  · obtain ⟨reply, t, hstep, ht, -⟩ :=
      rolls.step_ok hname (by rw [afterStep_endless hend, hmoves]; rfl)
    rw [hstep]
    exact ⟨rfl, ht.velocity⟩

/-- The fields of a configuration of the plane, with numbers instead of the usual ones. -/
def planarFields (numbers : List (String × Double)) : Value Double :=
  .record ((.text "engine_variant", .text "planar") ::
    numbers.map fun number => (.text number.1, .real number.2))

def planarConfig (friction step : Double) : Config Double :=
  { Config.default with
    variant := .planar, stepLength := .real step, ballFriction := .real friction }

theorem planarConfig_slows (friction step : Double) :
    (planarConfig friction step).Slows friction step := ⟨rfl, rfl, rfl⟩

/-- A robot alone with the ball on the plane. -/
def kickOff (c : Config Double) (velocity : Vec2 Double) : Session Double where
  run := { Run.ofConfig c ⟨⟨true, ["robot1"]⟩, ⟨true, []⟩⟩ with ball := some "ball" }
  bodies := ⟨[("robot1", ⟨.planar, .text "robot1", .list [.real 0.0, .real 0.0], .real 0.0,
      Body.rest .planar, 0, 0⟩),
    ("ball", ⟨.planar, .text "ball", .list [.real 1.0, .real 0.0], .real 0.0,
      velocity.toValue, 0, 0⟩)]⟩
  robots := ⟨[("a", ⟨"robot1", ⟨true, 1, c.robotsPerTeam⟩, .empty, .fresh⟩)]⟩
  clock := .int 0
  generator := .ofScript []

theorem kickOff_robot (c : Config Double) (velocity : Vec2 Double) :
    ∃ robot, (kickOff c velocity).robots.get "a" = .ok robot := ⟨_, rfl⟩

theorem kickOff_rolls (friction step : Double) (v : Vec2 Double) :
    (kickOff (planarConfig friction step) v).Rolls "ball" friction step v :=
  ⟨rfl, rfl, rfl, rfl, _, rfl, rfl⟩

theorem default_friction_step_kick_off :
    ((kickOff (planarConfig 0.5 10.0) ⟨3.0, -4.0⟩).steps
      [.slowBall "a" none, .slowBall "a" none]).1.all Except.isOk = true := by
  have accepted : Config.ofValue (planarFields [("ball_friction", 0.5)]) =
      .ok (planarConfig 0.5 10.0) :=
    (planarConfig_slows 0.5 10.0).check_eq_ok.mpr ⟨rfl, by decide +kernel, by decide +kernel⟩
  have finite : (⟨3.0, -4.0⟩ : Vec2 Double).IsFinite :=
    ⟨by decide +kernel, by decide +kernel, by decide +kernel⟩
  have hend : ¬Endless 0.5 10.0 := fun h => absurd h.1 (by decide +kernel)
  obtain ⟨safe, -⟩ := default_friction_step accepted (planarConfig_slows 0.5 10.0)
    (s := kickOff (planarConfig 0.5 10.0) ⟨3.0, -4.0⟩) rfl rfl rfl finite
  refine List.all_eq_true.mpr (safe hend ["a", "a"] fun name hname => ?_).1
  obtain rfl : name = "a" := by simpa using hname
  exact kickOff_robot _ _

/-- An endless step is accepted together with the usual friction, which is none. -/
theorem endless_step_divides_by_zero :
    Config.ofValue (planarFields [("step_length_ms", .infinite false)]) =
        .ok (planarConfig 0.0 (.infinite false)) ∧
      ((kickOff (planarConfig 0.0 (.infinite false)) Vec2.zero).step (.slowBall "a" none)).1 =
        .error .divisionByZero ∧
      (((kickOff (planarConfig 0.0 (.infinite false)) ⟨3.0, -4.0⟩).step
        (.slowBall "a" none)).2.bodies.get "ball" >>= Body.levelVelocity) =
          .ok ⟨.nan, .nan⟩ := by
  have hend : Endless 0.0 (.infinite false) := ⟨by decide +kernel, rfl⟩
  refine ⟨(planarConfig_slows 0.0 (.infinite false)).check_eq_ok.mpr
    ⟨rfl, by decide +kernel, by decide +kernel⟩, ?_, ?_⟩
  · have resting := kickOff_rolls 0.0 (.infinite false) Vec2.zero
    obtain ⟨robot, hrobot⟩ := kickOff_robot (planarConfig 0.0 (.infinite false)) Vec2.zero
    rw [resting.step_error hrobot (by rw [afterStep_endless hend, if_pos (by decide +kernel)])]
  · have rolling := kickOff_rolls 0.0 (.infinite false) ⟨3.0, -4.0⟩
    obtain ⟨robot, hrobot⟩ := kickOff_robot (planarConfig 0.0 (.infinite false)) ⟨3.0, -4.0⟩
    obtain ⟨reply, t, hstep, ⟨-, -, -, -, lost, hlost, hv⟩, -⟩ :=
      rolling.step_ok hrobot (by rw [afterStep_endless hend, if_neg (by decide +kernel)])
    rw [hstep, hlost]
    exact hv

end Session
end RobotSoccer
