import RobotSoccer.Proofs.Session.Reachable

/-! Commands that leave all bodies in place: what they change besides one robot's own model does not
matter to that robot, apart from the ball's velocity, which stays readable. -/
namespace RobotSoccer

variable {K : Type}

theorem Body.SamePlace.trans {b c d : Body K} (h : b.SamePlace c) (h' : c.SamePlace d) :
    b.SamePlace d := by
  obtain ⟨velocity, rfl⟩ := h
  obtain ⟨velocity', rfl⟩ := h'
  exact ⟨velocity', rfl⟩

variable [Scalar K]

theorem Body.Steered.levelVelocity {b c : Body K} (h : b.Steered c)
    (hb : ∃ v, b.levelVelocity = .ok v) : ∃ v, c.levelVelocity = .ok v := by
  obtain rfl | ⟨v, rfl⟩ := h
  · exact hb
  · exact ⟨v, rfl⟩

/-- A ball whose velocity can be read can be bent off its path by any angle. -/
theorem Variant.bendPath_answers (variant : Variant) (angle : K) {b : Body K}
    (hb : ∃ v, b.levelVelocity = .ok v) : ∃ c, variant.bendPath (.real angle) b = .ok c := by
  obtain ⟨v, hv⟩ := hb
  cases variant with
  | volumetric => exact ⟨b, rfl⟩
  | planar =>
    refine ⟨{ b with velocity := (v.rotateBy (.exact angle)).toValue }, ?_⟩
    rw [bendPath, hv]
    rfl

/-- Time passes, robots look, the ball slows down, or a question is asked: nothing is placed, made
or written to. -/
def Command.LeavesPlaces : Command K → Prop
  | tick _ | look _ | slowBall _ _ | robotPose _ | odometry _ _ | hostBall _ | model _ | body _
  | inFirstTeam _ _ | numberOf _ => True
  | _ => False

namespace Session

variable {s t u : Session K} {name ball : String} {robot : Robot K}

/-- The run and the bodies stay, but for the velocity of the ball. -/
structure Steers (s t : Session K) (ball : String) : Prop where
  run : t.run = s.run
  bodies : t.bodies = s.bodies ∨ ∃ b c, s.bodies.get ball = .ok b ∧ b.Steered c ∧
    t.bodies = s.bodies.set ball c

theorem Drives.steered {bodies : Table (Body K)} (h : s.Drives ball bodies) :
    bodies = s.bodies ∨ ∃ b c, s.bodies.get ball = .ok b ∧ b.Steered c ∧
      bodies = s.bodies.set ball c := by
  obtain h | ⟨-, b, c, hb, hc, h⟩ := h
  · exact .inl h
  · exact .inr ⟨b, c, hb, hc.steered, h⟩

theorem look_steers (s : Session K) (name : String) (hball : s.run.ball = some ball) :
    s.Steers (s.step (.look name)).2 ball := by
  obtain ⟨-, hs⟩ | change := s.step_changed (.look name)
  · rw [hs]
    exact ⟨rfl, .inl rfl⟩
  generalize (s.step (.look name)).2 = t at change ⊢
  cases change with
  | asked question => exact question.elim
  | ballless => exact ⟨rfl, .inl rfl⟩
  | looked _ hball' driven =>
    obtain rfl := Option.some.inj (hball.symm.trans hball')
    exact ⟨rfl, driven.steered⟩

/-- What a robot relies on between its own looks: the run, all bodies in their places, its own
record, and a velocity of the ball that can be read. -/
structure Undisturbed (s t : Session K) (ball name : String) (robot : Robot K) : Prop where
  run : t.run = s.run
  bodies : ∀ other, Agree Body.SamePlace (s.bodies.get other) (t.bodies.get other)
  velocity : ∀ body, t.bodies.get ball = .ok body → ∃ v, body.levelVelocity = .ok v
  robot : t.robots.get name = .ok robot

namespace Undisturbed

theorem refl (hr : s.robots.get name = .ok robot)
    (hv : ∀ body, s.bodies.get ball = .ok body → ∃ v, body.levelVelocity = .ok v) :
    s.Undisturbed s ball name robot :=
  ⟨rfl, fun _ => .refl Body.SamePlace.refl _, hv, hr⟩

theorem scene (h : s.Undisturbed t ball name robot) : s.SameScene { t with clock := s.clock } :=
  ⟨h.run, rfl, h.bodies⟩

theorem hasBall (h : s.Undisturbed t ball name robot) (hball : s.run.ball = some ball) :
    t.run.ball = some ball := by rw [h.run, hball]

theorem ballPlace {seen : Vec3 K} (h : s.Undisturbed t ball name robot)
    (hplace : s.ballPlace ball = .ok seen) : t.ballPlace ball = .ok seen :=
  (congrFun h.scene.ballPlace ball).trans hplace

theorem poseOf (h : s.Undisturbed t ball name robot) : t.poseOf = s.poseOf := h.scene.poseOf

theorem steers {r : Robot K} (h : s.Undisturbed t ball name robot) (hs : t.Steers u ball)
    (hr : u.robots.get name = .ok r) : s.Undisturbed u ball name r := by
  obtain hbodies | ⟨b, c, hb, hc, hbodies⟩ := hs.bodies
  · refine ⟨hs.run.trans h.run, ?_, ?_, hr⟩
    · rw [hbodies]
      exact h.bodies
    · rw [hbodies]
      exact h.velocity
  · refine ⟨hs.run.trans h.run, fun other => ?_, fun body hbody => ?_, hr⟩
    · refine (h.bodies other).trans ?_ fun _ _ _ => Body.SamePlace.trans
      rw [hbodies]
      by_cases hn : other = ball
      · rw [hn, hb, Table.get_set_self]
        exact .ok hc.samePlace
      · rw [Table.get_set_of_ne _ _ hn]
        exact .refl Body.SamePlace.refl _
    · rw [hbodies, Table.get_set_self] at hbody
      cases hbody
      exact hc.levelVelocity (h.velocity b hb)

theorem clock (h : s.Undisturbed t ball name robot) (clock : Value K) :
    s.Undisturbed { t with clock } ball name robot := ⟨h.run, h.bodies, h.velocity, h.robot⟩

/-- What others do does not disturb a robot. -/
theorem step_other {command : Command K} (h : s.Undisturbed t ball name robot)
    (hball : s.run.ball = some ball) (leaves : command.LeavesPlaces)
    (hne : command ≠ .look name) : s.Undisturbed (t.step command).2 ball name robot := by
  have hball' := h.hasBall hball
  obtain ⟨-, hs⟩ | change := t.step_changed command
  · rw [hs]
    exact h
  generalize (t.step command).2 = u at change ⊢
  cases change with
  | asked => exact h
  | ballless => exact h
  | ticked => exact h.clock _
  | @looked other _ r m calls bodies hr hb driven =>
    obtain rfl := Option.some.inj (hball'.symm.trans hb)
    have hn : name ≠ other := fun e => hne (e ▸ rfl)
    exact h.steers ⟨rfl, driven.steered⟩ ((Table.get_set_of_ne _ _ hn).trans h.robot)
  | ballSlowed hb driven =>
    obtain rfl := Option.some.inj (hball'.symm.trans hb)
    exact h.steers ⟨rfl, driven.steered⟩ h.robot
  | made => exact leaves.elim
  | ballKept => exact leaves.elim
  | ballSet => exact leaves.elim
  | hosted => exact leaves.elim
  | robotPlaced => exact leaves.elim
  | ballPlaced => exact leaves.elim
  | joined => exact leaves.elim
  | handled => exact leaves.elim

theorem steps_others {commands : List (Command K)} (h : s.Undisturbed t ball name robot)
    (hball : s.run.ball = some ball) (leave : ∀ c ∈ commands, c.LeavesPlaces)
    (hne : .look name ∉ commands) : s.Undisturbed (t.steps commands).2 ball name robot := by
  induction commands generalizing t with
  | nil => exact h
  | cons command commands ih =>
    rw [List.forall_mem_cons] at leave
    rw [List.mem_cons, not_or] at hne
    exact ih (h.step_other hball leave.1 (Ne.symm hne.1)) leave.2 hne.2

/-- A robot's own look updates its record and nothing else that it relies on. -/
theorem step_own {seen : Vec3 K} {update : Ball.Update K} (h : s.Undisturbed t ball name robot)
    (hball : s.run.ball = some ball) (hplace : s.ballPlace ball = .ok seen)
    (hu : robot.ball.update t.generator (robot.frame.position seen) t.clock = update) :
    s.Undisturbed (t.step (.look name)).2 ball name { robot with ball := update.model } ∧
      (t.step (.look name)).2.generator = update.generator := by
  have hball' := h.hasBall hball
  have hplace' := h.ballPlace hplace
  obtain ⟨-, hrobots, hgenerator⟩ := look_fed name hball' hplace' hu
  rw [← step_look_snd h.robot] at hrobots hgenerator
  refine ⟨h.steers (look_steers t name hball') ?_, hgenerator⟩
  rw [hrobots, Table.get_set_self]

theorem bendPath_answers {seen : Vec3 K} (h : s.Undisturbed t ball name robot)
    (hplace : t.ballPlace ball = .ok seen) (other : String) (r : Robot K) (update : Ball.Update K) :
    ∃ u, (t.fed other r update).bendPath ball update.model = .ok u := by
  obtain ⟨body, hb, -⟩ := ok_of_bind hplace
  obtain ⟨bent, hbent⟩ :=
    t.run.variant.bendPath_answers update.model.curveAngle (h.velocity body hb)
  have hb' : (t.fed other r update).bodies.get ball = .ok body := hb
  unfold Session.bendPath
  split
  · exact ⟨_, rfl⟩
  · refine ⟨(t.fed other r update).setBody ball bent, ?_⟩
    rw [hb']
    change (do return (t.fed other r update).setBody ball (← t.run.variant.bendPath _ body)) = _
    rw [hbent]
    rfl

/-- A look has an answer if the update of the robot's record has one and all robots can be read. -/
theorem look_answers {seen velocity : Vec3 K} {update : Ball.Update K}
    (h : s.Undisturbed t ball name robot) (hball : s.run.ball = some ball)
    (hplace : s.ballPlace ball = .ok seen)
    (hu : robot.ball.update t.generator (robot.frame.position seen) t.clock = update)
    (ho : update.outcome = .ok velocity) (hw : ∃ w, s.snapshot robot none = .ok w) :
    ∃ w m c, (t.step (.look name)).1 = .ok (.snapshot w m c) := by
  have hball' := h.hasBall hball
  have hplace' := h.ballPlace hplace
  obtain ⟨u, hbent⟩ := h.bendPath_answers hplace' name robot update
  have hlook := look_moved name hball' hplace' hu ho hbent
  obtain ⟨hown, -⟩ := h.step_own hball hplace hu
  rw [step_look_snd h.robot, hlook] at hown
  change s.Undisturbed u ball name _ at hown
  obtain ⟨w, hw'⟩ : ∃ w, u.snapshot robot (some ⟨robot.frame.position seen, velocity⟩) = .ok w :=
    snapshot_answers_of_readable hw hown.run fun body hq => by rwa [hown.poseOf]
  obtain ⟨body, hb, -⟩ := ok_of_bind (hown.ballPlace hplace)
  have hbody := ballBody?_of_get (hown.hasBall hball) hb
  refine ⟨w, update.model, some body, ?_⟩
  rw [step_look h.robot, lookReply, hlook]
  rw [hw']
  simp only [hown.robot, hbody]
  rfl

end Undisturbed
end Session
end RobotSoccer
