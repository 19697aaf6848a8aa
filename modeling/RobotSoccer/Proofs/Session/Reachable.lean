import RobotSoccer.Proofs.Numeric.Exact
import RobotSoccer.Proofs.Session.Change
import RobotSoccer.Proofs.Session.Sighting

/-! The states that a session comes to. In all of them the robots and the ball have their bodies. -/
namespace RobotSoccer.Session

variable {K : Type} {s t : Session K} {name : String}

/-- Every robot has its body, and so has the ball. -/
structure Wired (s : Session K) : Prop where
  robots : ∀ name robot, s.robots.get name = .ok robot →
    ∃ body, s.bodies.get robot.body = .ok body
  ball : ∀ ball, s.run.ball = some ball → ∃ body, s.bodies.get ball = .ok body

namespace Wired

theorem of_same (h : s.Wired) (hball : t.run.ball = s.run.ball) (hb : t.bodies = s.bodies)
    (hr : t.robots = s.robots) : t.Wired := by
  refine ⟨?_, ?_⟩
  · rw [hb, hr]
    exact h.robots
  · rw [hb, hball]
    exact h.ball

theorem setBody (h : s.Wired) (name : String) (body : Body K) : (s.setBody name body).Wired := by
  have kept : ∀ other, (∃ b, s.bodies.get other = .ok b) →
      ∃ b, (s.setBody name body).bodies.get other = .ok b := by
    rintro other ⟨b, hb⟩
    by_cases hn : other = name
    · subst hn
      exact ⟨body, Table.get_set_self _ _ _⟩
    · exact ⟨b, (Table.get_set_of_ne _ _ hn).trans hb⟩
  exact ⟨fun n r hr => kept _ (h.robots n r hr), fun ball hball => kept _ (h.ball ball hball)⟩

theorem setRobot (h : s.Wired) (name : String) {robot : Robot K}
    (hb : ∃ body, s.bodies.get robot.body = .ok body) : (s.setRobot name robot).Wired := by
  refine ⟨fun n r hr => ?_, h.ball⟩
  by_cases hn : n = name
  · subst hn
    obtain rfl : robot = r := by
      rw [Session.setRobot, Table.get_set_self] at hr
      exact Except.ok.inj hr
    exact hb
  · exact h.robots n r ((Table.get_set_of_ne _ _ hn).symm.trans hr)

end Wired

variable [Scalar K]

/-- A session starts without robots and without a ball, and goes on by commands. -/
inductive Reachable : Session K → Prop
  | start (run : Run K) (bodies : Table (Body K)) (clock : Value K) (generator : Generator K)
      (noBall : run.ball = none) : Reachable (start run bodies clock generator)
  | step {s : Session K} (h : Reachable s) (command : Command K) : Reachable (s.step command).2

theorem Reachable.makeRobot {body : String} {robot : Robot K} (h : s.Reachable)
    (made : s.makeRobot body = .ok robot) (name : String) : (s.setRobot name robot).Reachable := by
  have reached := h.step (.makeRobot name (some body))
  simpa only [Session.step, Option.elim, made] using reached

theorem makeRobot_body {body : String} {robot : Robot K} (h : s.makeRobot body = .ok robot) :
    robot.body = body ∧ ∃ b, s.bodies.get body = .ok b := by
  obtain ⟨b, hb, h⟩ := ok_of_bind h
  obtain ⟨number, -, h⟩ := ok_of_bind h
  obtain ⟨team, -, h⟩ := ok_of_bind h
  obtain ⟨roster, -, h⟩ := ok_of_bind h
  cases h
  exact ⟨rfl, b, hb⟩

namespace Wired

theorem drives {ball : String} {bodies : Table (Body K)} (h : s.Wired) (hd : s.Drives ball bodies) :
    Wired { s with bodies } := by
  obtain rfl | ⟨-, b, c, -, -, rfl⟩ := hd
  · exact h
  · exact h.setBody ball c

/-- A command keeps the robots and the ball on their bodies. -/
theorem step (h : s.Wired) (command : Command K) : (s.step command).2.Wired := by
  obtain ⟨-, hs⟩ | change := s.step_changed command
  · rw [hs]
    exact h
  generalize (s.step command).2 = t at change ⊢
  cases change with
  | asked => exact h
  | ballless => exact h
  | ballKept => exact h
  | @made name body robot made =>
    obtain ⟨rfl, hb⟩ := makeRobot_body made
    exact h.setRobot name hb
  | @ballSet ball b hb noBall =>
    refine ⟨h.robots, fun other hother => ?_⟩
    obtain rfl := Option.some.inj hother
    exact ⟨b, hb⟩
  | ticked => exact h.of_same rfl rfl rfl
  | hosted => exact h.setBody _ _
  | @looked name ball robot m calls bodies hr hball driven =>
    have hbodies := h.drives driven
    have hmodel : (Session.setRobot { s with bodies } name { robot with ball := m }).Wired :=
      hbodies.setRobot name (hbodies.robots name robot hr)
    exact hmodel.of_same rfl rfl rfl
  | robotPlaced => exact h.setBody _ _
  | @ballPlaced name ball placement robot b c hr hball hb =>
    have hplaced := h.setBody ball c
    split
    · exact hplaced.setRobot name (hplaced.robots name robot hr)
    · exact hplaced
  | ballSlowed _ driven => exact h.drives driven
  | joined => exact h.of_same rfl rfl rfl
  | handled => exact h.setBody _ _

end Wired

theorem Reachable.wired (h : s.Reachable) : s.Wired := by
  induction h with
  | start run bodies clock generator noBall =>
    refine ⟨fun name robot hr => ?_, fun ball hball => ?_⟩
    · cases hr
    · cases noBall.symm.trans hball
  | step _ command ih => exact ih.step command

/-- A body at rest at the origin. -/
noncomputable def restingBody (variant : Variant) (name : String) : String × Body ℝ :=
  (name, ⟨variant, .text name, Vec3.zero.toValue,
    match variant with
    | .planar => .real 0.0
    | .volumetric => (Mat3.aboutZ (.exact 0.0)).toValue,
    Body.rest variant, 0, 0⟩)

/-- Bodies for two robots against one, and a ball. -/
noncomputable def hall (variant : Variant) : Session ℝ :=
  ((Session.start (.make variant (.int 2) (.int 40) (.real 0.5)
      ⟨⟨true, ["robot1", "robot2"]⟩, ⟨true, ["robot3"]⟩⟩)
    ⟨["robot1", "robot2", "robot3", "ball"].map (restingBody variant)⟩ (.int 0)
      (.ofScript [])).step (.setBall "ball")).2

theorem hall_reachable (variant : Variant) : (hall variant).Reachable :=
  .step (.start _ _ _ _ rfl) _

theorem hall_ball (variant : Variant) : (hall variant).run.ball = some "ball" := by
  cases variant <;> decide +kernel

theorem hall_makeRobot (variant : Variant) :
    ∀ body ∈ ["robot1", "robot2", "robot3"],
      ∃ robot, (hall variant).makeRobot body = .ok robot := by
  have made : ∀ body ∈ ["robot1", "robot2", "robot3"],
      ((hall variant).makeRobot body).isOk = true := by
    cases variant <;> decide +kernel
  exact fun body hbody => answers_of_isOk (made body hbody)

end RobotSoccer.Session
