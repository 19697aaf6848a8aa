import RobotSoccer.Proofs.Session.Change
import RobotSoccer.Proofs.Session.Opposed

/-! How often the path of the ball is bent. A look bends it if the robot has looked before at an
earlier time, so that each robot bends it at most once at each time of the clock. -/
namespace RobotSoccer

variable {K : Type}

/-- Time is counted in whole milliseconds, and does not go back. -/
def Command.KeepsTime : Command K → Prop
  | tick time => ∃ milliseconds : Nat, time = .int milliseconds
  | _ => True

/-- The first two items of a body's velocity are these numbers. -/
def Body.HasVelocity [Scalar K] (b : Body K) (v : Vec2 K) : Prop :=
  ∃ x y further, b.velocity.items = .ok (x :: y :: further) ∧ x.readReal = .ok v.x ∧
    y.readReal = .ok v.y

theorem Body.hasVelocity_iff [Scalar K] {b : Body K} {v : Vec2 K} :
    b.HasVelocity v ↔ b.levelVelocity = .ok v := by
  rw [HasVelocity, levelVelocity]
  constructor
  · rintro ⟨x, y, further, hitems, hx, hy⟩
    rw [hitems]
    change (do return (⟨← x.readReal, ← y.readReal⟩ : Vec2 K)) = _
    rw [hx, hy]
    rfl
  · intro h
    obtain ⟨items, hitems, h⟩ := ok_of_bind h
    match items with
    | [] => cases h
    | [x] =>
      obtain ⟨_, -, h⟩ := ok_of_bind h
      cases h
    | x :: y :: further =>
      obtain ⟨vx, hx, h⟩ := ok_of_bind h
      obtain ⟨vy, hy, h⟩ := ok_of_bind h
      cases h
      exact ⟨x, y, further, hitems, hx, hy⟩

namespace Session

variable {s t : Session K} {command : Command K} {name ball : String} {robot : Robot K}
  {last : Option (Value K)} {since : Int}

/-- The time of a robot's last look at the ball since the robot was made or stopped the ball, once a
command is carried out. -/
def noted (s : Session K) (name : String) (last : Option (Value K)) :
    Command K → Option (Value K)
  | .look other => if other = name ∧ s.run.ball.isSome = true then some s.clock else last
  | .makeRobot other _ => if other = name then none else last
  | .placeBall other placement =>
    if other = name ∧ placement.stops = true ∧ s.run.ball.isSome = true then none else last
  | _ => last

theorem noted_of_question (s : Session K) (name : String) (last : Option (Value K))
    (h : command.IsQuestion) : s.noted name last command = last := by
  cases command <;> first | rfl | exact h.elim

theorem noted_ballless (name : String) (last : Option (Value K)) (h : command.NeedsBall)
    (noBall : s.run.ball = none) : s.noted name last command = last := by
  cases command <;> first | exact h.elim | simp [noted, noBall]

/-- A robot's sample is from its last look, which is no earlier than a certain time. -/
structure Dated (s : Session K) (name : String) (since : Int) (last : Option (Value K)) : Prop where
  sample : ∀ robot, s.robots.get name = .ok robot → robot.ball.sample.map Ball.Sample.time = last
  times : ∃ now : Int, s.clock = .int now ∧ since ≤ now ∧
    ∀ time, last = some time → ∃ n : Int, time = .int n ∧ since ≤ n ∧ n ≤ now

/-- A robot has looked at the ball before, at an earlier time. -/
def Due (s : Session K) (last : Option (Value K)) : Prop :=
  ∃ before now : Int, last = some (.int before) ∧ s.clock = .int now ∧ before < now

/-- Whether one time is before another one. -/
def isEarlier : Option (Value K) → Value K → Bool
  | some (.int before), .int now => decide (before < now)
  | _, _ => false

theorem due_iff : s.Due last ↔ isEarlier last s.clock = true := by
  constructor
  · rintro ⟨before, now, rfl, hnow, hlt⟩
    rw [hnow]
    exact decide_eq_true hlt
  · intro h
    unfold isEarlier at h
    split at h
    · rename_i before now hnow
      exact ⟨before, now, rfl, hnow, of_decide_eq_true h⟩
    · cases h

instance : Decidable (s.Due last) := decidable_of_iff _ due_iff.symm

namespace Dated

theorem same (h : s.Dated name since last) (hrobots : t.robots.get name = s.robots.get name)
    (hclock : t.clock = s.clock) : t.Dated name since last := by
  refine ⟨?_, ?_⟩
  · rw [hrobots]
    exact h.sample
  · rw [hclock]
    exact h.times

/-- The robot's record is new, with no sample or one of the present time. -/
theorem renewed {last' : Option (Value K)} (h : s.Dated name since last)
    (hr : t.robots.get name = .ok robot) (hclock : t.clock = s.clock)
    (hsample : robot.ball.sample.map Ball.Sample.time = last')
    (hlast : last' = none ∨ last' = some s.clock) : t.Dated name since last' := by
  obtain ⟨now, hnow, hsince, -⟩ := h.times
  refine ⟨fun r hr' => ?_, now, hclock.trans hnow, hsince, fun time htime => ?_⟩
  · cases hr.symm.trans hr'
    exact hsample
  · obtain rfl | rfl := hlast
    · cases htime
    · cases htime
      exact ⟨now, hnow, hsince, le_rfl⟩

/-- No look at the present time bends the path of the ball after one at this time. -/
theorem not_due {now : Int} (h : s.Dated name now last) (hclock : s.clock = .int now) :
    ¬ s.Due last := by
  rintro ⟨earlier, now', hlast, hnow, hlt⟩
  obtain ⟨_, -, -, htimes⟩ := h.times
  obtain ⟨n, hn, hfrom, -⟩ := htimes _ hlast
  cases hn
  cases hclock.symm.trans hnow
  omega

end Dated

variable [Scalar K]

/-- The time of a robot's last look at the ball since the robot was made or stopped the ball. -/
def lastLook (s : Session K) (name : String) (last : Option (Value K)) :
    List (Command K) → Option (Value K)
  | [] => last
  | command :: rest => (s.step command).2.lastLook name (s.noted name last command) rest

/-- The ball's velocity is turned counter-clockwise by a robot's curve angle as it is afterwards. -/
def Bends (s t : Session K) (ball name : String) : Prop :=
  ∃ b v r, s.bodies.get ball = .ok b ∧ b.HasVelocity v ∧ t.robots.get name = .ok r ∧
    let cos := Scalar.cos r.ball.curveAngle
    let sin := Scalar.sin r.ball.curveAngle
    t.bodies = s.bodies.set ball
      { b with velocity := .list [.real (v.x * cos - v.y * sin), .real (v.x * sin + v.y * cos)] }

/-- A look that answers has fed the robot's model, and then the ball's path is bent by it. -/
theorem look_answered {reply : Reply K} (hr : s.robots.get name = .ok robot)
    (hball : s.run.ball = some ball) (h : (s.step (.look name)).1 = .ok reply) :
    ∃ seen velocity update t, robot.ball.update s.generator seen s.clock = update ∧
      update.outcome = .ok velocity ∧ (s.fed name robot update).bendPath ball update.model = .ok t ∧
      (s.step (.look name)).2 = t ∧ t.robots.get name = .ok { robot with ball := update.model } := by
  obtain ⟨w, -, -, hw, -⟩ := step_look_ok hr h
  cases hplace : s.ballPlace ball with
  | error fault =>
    rw [look_unseen hball hplace] at hw
    cases hw
  | ok seen =>
    obtain ⟨fault, hl⟩ | ⟨velocity, t, ho, ht, hl⟩ := look_seen name hball hplace rfl
    · rw [hl] at hw
      cases hw
    · refine ⟨_, velocity, _, t, rfl, ho, ht, ?_, ?_⟩
      · rw [step_look_snd hr, hl]
      · obtain ⟨-, hrobots, -⟩ := bendPath_spec ht
        rw [hrobots]
        exact Table.get_set_self _ _ _

namespace Dated

theorem tick (h : s.Dated name since last) {time clock : Value K}
    (keeps : (Command.tick time).KeepsTime) (hclock : s.clock.advance time = .ok clock) :
    Dated { s with clock } name since last := by
  obtain ⟨now, hnow, hsince, htimes⟩ := h.times
  obtain ⟨milliseconds, rfl⟩ := keeps
  have advanced : s.clock.advance (.int milliseconds) = .ok (.int (now + milliseconds)) := by
    rw [hnow]
    rfl
  cases hclock.symm.trans advanced
  refine ⟨h.sample, now + milliseconds, rfl, by omega, fun time htime => ?_⟩
  obtain ⟨n, hn, hfrom, hto⟩ := htimes time htime
  exact ⟨n, hn, hfrom, by omega⟩

/-- A look of any robot that answers. -/
theorem look {reply : Reply K} {other : String} (h : s.Dated name since last)
    (answered : (s.step (.look other)).1 = .ok reply) :
    (s.step (.look other)).2.Dated name since (s.noted name last (.look other)) := by
  cases hr : s.robots.get other with
  | error fault =>
    rw [step, hr] at answered
    cases answered
  | ok r =>
    cases hball : s.run.ball with
    | none =>
      have kept : s.noted name last (.look other) = last := noted_ballless name last trivial hball
      rw [kept, step_look_ballless other hball]
      exact h
    | some ball =>
      obtain ⟨seen, velocity, update, t, hu, ho, ht, hs, hafter⟩ := look_answered hr hball answered
      obtain ⟨-, hbent⟩ := bendPath_drives ht
      have hclock : t.clock = s.clock := by rw [hbent]; rfl
      rw [hs]
      by_cases hn : other = name
      · subst hn
        have noted : s.noted other last (.look other) = some s.clock := by
          simp [Session.noted, hball]
        rw [noted]
        refine h.renewed hafter hclock ?_ (.inr rfl)
        have hsample := Ball.Model.sample_of_update (hu ▸ ho)
        rw [hu] at hsample
        simp [hsample]
      · have noted : s.noted name last (.look other) = last := by simp [Session.noted, hn]
        rw [noted]
        refine h.same ?_ hclock
        rw [hbent]
        exact Table.get_set_of_ne _ _ (Ne.symm hn)

/-- Every command that answers and keeps time. -/
theorem step {reply : Reply K} (h : s.Dated name since last) (keeps : command.KeepsTime)
    (answered : (s.step command).1 = .ok reply) :
    (s.step command).2.Dated name since (s.noted name last command) := by
  obtain ⟨⟨fault, hfault⟩, -⟩ | change := s.step_changed command
  · cases hfault.symm.trans answered
  generalize ht : (s.step command).2 = t at change ⊢
  cases change with
  | asked question =>
    rw [noted_of_question s name last question]
    exact h
  | ballless needs noBall =>
    rw [noted_ballless name last needs noBall]
    exact h
  | @made other body r hr =>
    by_cases hn : other = name
    · subst hn
      have noted : s.noted other last (.makeRobot other (some body)) = none := by
        simp [Session.noted]
      rw [noted]
      refine h.renewed (Table.get_set_self _ _ _) rfl ?_ (.inl rfl)
      rw [makeRobot_fresh hr]
      rfl
    · have noted : s.noted name last (.makeRobot other (some body)) = last := by
        simp [Session.noted, hn]
      rw [noted]
      exact h.same (Table.get_set_of_ne _ _ (Ne.symm hn)) rfl
  | ticked hclock => exact h.tick keeps hclock
  | looked =>
    rw [← ht]
    exact h.look answered
  | @ballPlaced other ball placement r b c hr hball hb =>
    by_cases own : other = name ∧ placement.stops = true
    · obtain ⟨rfl, hstops⟩ := own
      have noted : s.noted other last (.placeBall other placement) = none := by
        simp [Session.noted, hstops, hball]
      rw [noted, if_pos hstops]
      exact h.renewed (Table.get_set_self _ _ _) rfl rfl (.inl rfl)
    · have noted : s.noted name last (.placeBall other placement) = last := by
        simp only [Session.noted, ← and_assoc, own, false_and, if_false]
      rw [noted]
      split
      · rename_i hstops
        have hn : name ≠ other := fun e => own ⟨e.symm, hstops⟩
        exact h.same (Table.get_set_of_ne _ _ hn) rfl
      · exact h.same rfl rfl
  | ballKept => exact h
  | ballSet => exact h.same rfl rfl
  | hosted => exact h.same rfl rfl
  | robotPlaced => exact h.same rfl rfl
  | ballSlowed => exact h.same rfl rfl
  | joined => exact h.same rfl rfl
  | handled => exact h.same rfl rfl

/-- The run keeps a robot's sample at its last look. -/
theorem steps {commands : List (Command K)} (h : s.Dated name since last)
    (keep : ∀ command ∈ commands, command.KeepsTime)
    (answered : ∀ reply ∈ (s.steps commands).1, reply.isOk = true) :
    (s.steps commands).2.Dated name since (s.lastLook name last commands) := by
  induction commands generalizing s last with
  | nil => exact h
  | cons command rest ih =>
    rw [List.forall_mem_cons] at keep
    obtain ⟨reply, hreply⟩ := answers_of_isOk (answered _ List.mem_cons_self)
    have later : ∀ reply ∈ ((s.step command).2.steps rest).1, reply.isOk = true :=
      fun reply hr => answered reply (List.mem_cons_of_mem _ hr)
    exact ih (h.step keep.1 hreply) keep.2 later

/-- An update that answers has an elapsed time just if the last look was at an earlier time. -/
theorem elapsed_iff {update : Ball.Update K} {seen velocity : Vec3 K} {g : Generator K}
    (h : s.Dated name since last) (hr : s.robots.get name = .ok robot)
    (hu : robot.ball.update g seen s.clock = update) (ho : update.outcome = .ok velocity) :
    update.model.lastElapsed.isSome = true ↔ s.Due last := by
  have hsample := h.sample robot hr
  obtain ⟨now, hnow, -, htimes⟩ := h.times
  obtain ⟨found, hfound, helapsed⟩ := Ball.Model.lastElapsed_of_update (hu ▸ ho)
  rw [hu] at helapsed
  rw [helapsed, Option.isSome_map]
  rw [hnow] at hfound
  cases hs : robot.ball.sample with
  | none =>
    rw [hs] at hsample
    rw [Ball.Model.since?_of_no_sample hs] at hfound
    cases hfound
    simp [Due, ← hsample]
  | some sample =>
    obtain ⟨place, time⟩ := sample
    rw [hs] at hsample
    obtain ⟨n, hn, -, hle⟩ := htimes time hsample.symm
    cases hn
    rw [Ball.Model.since?_int hs] at hfound
    cases hfound
    have due : s.Due last ↔ n < now := by simp [Due, ← hsample, hnow]
    rw [due]
    by_cases e : now = n
    · simp [e]
    · simp only [e, if_false, Option.isSome_some, true_iff]
      omega

/-- A look bends the path of the ball just if the robot's last look was at an earlier time. -/
theorem bends {reply : Reply K} (h : s.Dated name since last) (planar : s.run.variant = .planar)
    (hball : s.run.ball = some ball) (answered : (s.step (.look name)).1 = .ok reply) :
    (s.Due last → s.Bends (s.step (.look name)).2 ball name) ∧
      (¬ s.Due last → (s.step (.look name)).2.bodies = s.bodies) := by
  cases hr : s.robots.get name with
  | error fault =>
    rw [Session.step, hr] at answered
    cases answered
  | ok robot =>
    obtain ⟨seen, velocity, update, t, hu, ho, ht, hs, hafter⟩ := look_answered hr hball answered
    rw [hs, ← h.elapsed_iff hr hu ho]
    obtain ⟨helapsed, rfl⟩ | ⟨helapsed, b, c, hb, hc, rfl⟩ := bendPath_ok ht
    · refine ⟨fun due => ?_, fun _ => rfl⟩
      rw [helapsed] at due
      cases due
    · refine ⟨fun _ => ?_, fun due => absurd helapsed due⟩
      obtain ⟨volumetric, -⟩ | ⟨-, v, hv, rfl⟩ := Variant.bendPath_ok hc
      · cases planar.symm.trans volumetric
      · exact ⟨b, v, _, hb, Body.hasVelocity_iff.mpr hv, hafter, rfl⟩

/-- A run that answers, cut at one of its commands. -/
theorem at_command {before after : List (Command K)} (h : s.Dated name since last)
    (keep : ∀ c ∈ before ++ command :: after, c.KeepsTime)
    (answered : ∀ reply ∈ (s.steps (before ++ command :: after)).1, reply.isOk = true) :
    (s.steps before).2.Dated name since (s.lastLook name last before) ∧
      (∃ reply, ((s.steps before).2.step command).1 = .ok reply) ∧
      ∀ reply ∈ (((s.steps before).2.step command).2.steps after).1, reply.isOk = true := by
  rw [steps_append] at answered
  have earlier : ∀ reply ∈ (s.steps before).1, reply.isOk = true :=
    fun reply hr => answered reply (List.mem_append_left _ hr)
  have rest : ∀ reply ∈ ((s.steps before).2.steps (command :: after)).1, reply.isOk = true :=
    fun reply hr => answered reply (List.mem_append_right _ hr)
  refine ⟨h.steps (fun c hc => keep c (List.mem_append_left _ hc)) earlier, ?_, ?_⟩
  · exact answers_of_isOk (rest _ List.mem_cons_self)
  · exact fun reply hr => rest reply (List.mem_cons_of_mem _ hr)

/-- Once a robot has looked, its last look is no earlier. -/
theorem looked {reply : Reply K} {now : Int} (h : s.Dated name since last)
    (hball : s.run.ball.isSome = true) (hclock : s.clock = .int now)
    (answered : (s.step (.look name)).1 = .ok reply) :
    (s.step (.look name)).2.Dated name now (some s.clock) := by
  have hlook := h.look answered
  have noted : s.noted name last (.look name) = some s.clock := by simp [Session.noted, hball]
  rw [noted] at hlook
  refine ⟨hlook.sample, now, ?_, le_rfl, fun time htime => ?_⟩
  · rw [s.step_clock (by simp), hclock]
  · cases htime
    exact ⟨now, hclock, le_rfl, le_rfl⟩

end Dated

theorem look_bodies_of_volumetric (volumetric : s.run.variant = .volumetric) (name : String) :
    (s.step (.look name)).2.bodies = s.bodies := by
  obtain ⟨-, hs⟩ | change := s.step_changed (.look name)
  · rw [hs]
  generalize (s.step (.look name)).2 = t at change ⊢
  cases change with
  | asked question => exact question.elim
  | ballless => rfl
  | looked _ _ driven => exact bodies_of_drives driven volumetric

theorem slowBall_bodies_of_volumetric (volumetric : s.run.variant = .volumetric) (name : String)
    (friction : Option (Value K)) : (s.step (.slowBall name friction)).2.bodies = s.bodies := by
  obtain ⟨-, hs⟩ | change := s.step_changed (.slowBall name friction)
  · rw [hs]
  generalize (s.step (.slowBall name friction)).2 = t at change ⊢
  cases change with
  | asked question => exact question.elim
  | ballless => rfl
  | ballSlowed _ driven => exact bodies_of_drives driven volumetric

/-- On a plane, over commands that all answer and a clock of integers that does not go back, a look
bends the path of the ball, once and by the curve angle that the robot has afterwards, just if the
robot has looked at the ball at an earlier time since it was made or stopped the ball. So no robot
bends it twice at one time. In space neither looks nor friction change any body. -/
theorem ball_bent_once_a_tick {commands : List (Command K)} {start : Int}
    (planar : s.run.variant = .planar) (clock : s.clock = .int start)
    (fresh : ∀ robot, s.robots.get name = .ok robot → robot.ball = .fresh)
    (keep : ∀ command ∈ commands, command.KeepsTime)
    (answered : ∀ reply ∈ (s.steps commands).1, reply.isOk = true) :
    (∀ before after ball, commands = before ++ .look name :: after →
      let u := (s.steps before).2
      let t := (u.step (.look name)).2
      u.run.ball = some ball →
        (u.Due (s.lastLook name none before) → u.Bends t ball name) ∧
          (¬ u.Due (s.lastLook name none before) → t.bodies = u.bodies)) ∧
    (∀ before between after,
      commands = before ++ .look name :: (between ++ .look name :: after) →
        let u := (s.steps before).2
        let t := (s.steps (before ++ .look name :: between)).2
        u.run.ball.isSome = true → t.clock = u.clock →
          (t.step (.look name)).2.bodies = t.bodies) ∧
    ∀ u : Session K, u.run.variant = .volumetric → ∀ other,
      (u.step (.look other)).2.bodies = u.bodies ∧
        ∀ friction, (u.step (.slowBall other friction)).2.bodies = u.bodies := by
  have dated : s.Dated name start none := by
    refine ⟨fun robot hr => ?_, start, clock, le_rfl, fun time htime => by cases htime⟩
    rw [fresh robot hr]
    rfl
  refine ⟨?_, ?_, fun u volumetric other => ?_⟩
  · intro before after ball split u t hball
    subst split
    obtain ⟨hu, ⟨reply, hreply⟩, -⟩ := dated.at_command keep answered
    exact hu.bends ((s.steps_variant before).trans planar) hball hreply
  · intro before between after split u t hball same
    subst split
    obtain ⟨hu, ⟨reply, hreply⟩, later⟩ := dated.at_command keep answered
    obtain ⟨now, hnow, -⟩ := hu.times
    have hnext := hu.looked hball hnow hreply
    have keepLater : ∀ c ∈ between ++ .look name :: after, c.KeepsTime :=
      fun c hc => keep c (by simp [hc])
    obtain ⟨ht, ⟨reply', hreply'⟩, -⟩ := hnext.at_command keepLater later
    have reached : ((u.step (.look name)).2.steps between).2 = t := by
      simp only [t, steps_append]
      rfl
    rw [reached] at ht hreply'
    have notDue := ht.not_due (same.trans hnow)
    cases hball' : t.run.ball with
    | none => rw [step_look_ballless name hball']
    | some ball => exact (ht.bends ((s.steps_variant _).trans planar) hball' hreply').2 notDue
  · exact ⟨look_bodies_of_volumetric volumetric other,
      slowBall_bodies_of_volumetric volumetric other⟩

/-- The ball rolls on the pitch between two looks of one robot. -/
def rolledOn : List (Command Double) :=
  [.makeRobot "a" (some "robot1"), .look "a", .tick (.int 40),
    .host "ball" none (some (.list [.real 0.1, .real 0.0])) none
      (some (.list [.real 1.0, .real 0.0]))]

/-- A robot stops the ball. -/
def stopBall : Command Double := .placeBall "a" ⟨true, .list [.int 0, .int 0, .int 0], true⟩

theorem ball_bent_once_a_tick_rolling :
    let u := (pitch.steps rolledOn).2
    let t := (pitch.steps (rolledOn ++ .look "a" :: [stopBall])).2
    u.Bends (u.step (.look "a")).2 "ball" "a" ∧ (t.step (.look "a")).2.bodies = t.bodies := by
  have fresh : ∀ robot, pitch.robots.get "a" = .ok robot → robot.ball = .fresh := by
    intro robot hr
    cases hr
  have keep : ∀ c ∈ rolledOn ++ .look "a" :: ([stopBall] ++ .look "a" :: []), c.KeepsTime := by
    have waits : ∃ milliseconds : Nat, (40 : Int) = milliseconds := ⟨40, rfl⟩
    simpa [rolledOn, stopBall, Command.KeepsTime] using waits
  have answered : ∀ reply ∈ (pitch.steps (rolledOn ++ .look "a" :: ([stopBall] ++
      .look "a" :: []))).1, reply.isOk = true := by decide +kernel
  obtain ⟨bends, once, -⟩ := ball_bent_once_a_tick rfl rfl fresh keep answered
  have hball : (pitch.steps rolledOn).2.run.ball = some "ball" := by decide +kernel
  have due : (pitch.steps rolledOn).2.Due (pitch.lastLook "a" none rolledOn) := by decide +kernel
  refine ⟨(bends rolledOn _ "ball" rfl hball).1 due, once rolledOn [stopBall] [] rfl ?_ ?_⟩
  · rw [hball]
    rfl
  · rw [steps_append]
    generalize (pitch.steps rolledOn).2 = u
    have seen := step_clock u (show ∀ time, Command.look "a" ≠ .tick time by simp)
    have stopped := step_clock (u.step (.look "a")).2
      (show ∀ time, stopBall ≠ .tick time by simp [stopBall])
    exact stopped.trans seen

end Session
end RobotSoccer
