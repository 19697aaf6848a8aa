import RobotSoccer.Proofs.Session.Alike
import RobotSoccer.Proofs.Session.Opposed

/-! What a robot sees is not disturbed by what others look at. Their looks draw from the generator
and turn the velocity of the ball, and a robot's curve angle depends on what they have drawn, but
none of this is ever seen. -/
namespace RobotSoccer

variable {K : Type}

/-- A robot looks around, at itself, or asks the host for the ball. -/
def Command.isSightOf (name : String) : Command K → Bool
  | look robot | robotPose robot | hostBall robot => robot == name
  | _ => false

/-- What is not a query of another robot, and not friction that another robot applies. -/
def Command.matters (name : String) : Command K → Bool
  | look robot | robotPose robot | hostBall robot | slowBall robot _ => robot == name
  | _ => true

namespace Session

variable [Scalar K] {s t : Session K} {command : Command K} {name : String}

theorem step_unseen (s : Session K) (h : command.matters name = false) :
    s.AlikeFor (s.step command).2 name := by
  cases command with
  | look other =>
    have hne : other ≠ name := by simpa [Command.matters] using h
    exact s.look_unseen_by hne
  | slowBall other friction => exact s.slowBall_unseen_by name other friction
  | robotPose other => exact .refl s name
  | hostBall other => exact .refl s name
  | _ => cases h

/-- What a robot sees is the same in sessions that look the same to it. -/
theorem AlikeFor.sight (h : s.AlikeFor t name) (reliable : s.generator.Reliable)
    (hs : command.isSightOf name = true) :
    (s.step command).1.map Reply.sight? = (t.step command).1.map Reply.sight? := by
  cases command with
  | look other =>
    obtain rfl : other = name := by simpa [Command.isSightOf] using hs
    have hr := h.robots other
    simp only [Session.step]
    generalize s.robots.get other = x at hr ⊢
    generalize t.robots.get other = y at hr ⊢
    cases hr with
    | error fault => rfl
    | ok hr => exact (h.lookReply reliable hr).1
  | robotPose other =>
    have hr := h.robots other
    simp only [Session.step, answer, h.scene.robotPose]
    generalize s.robots.get other = x at hr ⊢
    generalize t.robots.get other = y at hr ⊢
    cases hr with
    | error fault => rfl
    | ok hr =>
      obtain ⟨m, rfl⟩ := hr.record
      rfl
  | hostBall other =>
    have hr := h.robots other
    simp only [Session.step, answer, h.scene.hostBall]
    generalize s.robots.get other = x at hr ⊢
    generalize t.robots.get other = y at hr ⊢
    cases hr <;> rfl
  | _ => cases hs

/-- What a robot sees in the course of a session, failures included. -/
def sights (s : Session K) (name : String) :
    List (Command K) → List (Except Fault (Option (Sight K)))
  | [] => []
  | command :: rest =>
    let later := (s.step command).2.sights name rest
    if command.isSightOf name then (s.step command).1.map Reply.sight? :: later else later

/-- What does not matter to a robot can be left out. -/
theorem AlikeFor.sights_filter (h : s.AlikeFor t name) (reliable : s.generator.Reliable)
    (commands : List (Command K)) :
    s.sights name commands = t.sights name (commands.filter (Command.matters name)) := by
  induction commands generalizing s t with
  | nil => rfl
  | cons command rest ih =>
    have reliable' := reliable.of_script (s.step_script command)
    cases hm : command.matters name with
    | false =>
      have unseen : command.isSightOf name = false := by
        cases command <;> first | rfl | exact hm
      rw [List.filter_cons_of_neg (by simp [hm]), sights, unseen]
      exact ih ((s.step_unseen hm).symm.trans h) reliable'
    | true =>
      have later := ih (h.step reliable command) reliable'
      rw [List.filter_cons_of_pos hm, sights, sights, later]
      cases hs : command.isSightOf name with
      | false => rfl
      | true => rw [h.sight reliable hs]

/-- Queries of other robots, and friction that they apply, do not disturb what a robot sees: all
its queries have the same outcomes in two sessions that differ in nothing but these, however they
end, as long as the generator refuses nothing but a spread with a minus sign. -/
theorem bystanders_are_not_seen {s : Session K} (reliable : s.generator.Reliable) (name : String)
    {commands others : List (Command K)}
    (same : commands.filter (Command.matters name) = others.filter (Command.matters name)) :
    s.sights name commands = s.sights name others := by
  rw [(AlikeFor.refl s name).sights_filter reliable commands, same,
    (AlikeFor.refl s name).sights_filter reliable others]

/-- A robot looks twice at a rolling ball and asks the host for it. -/
def watching : List (Command Double) :=
  [.makeRobot "a" (some "robot1"), .makeRobot "b" (some "robot2"), .look "a", .tick (.int 40),
    .host "ball" none (some (.list [.real 0.1, .real 0.0])) none
      (some (.list [.real 1.0, .real 0.0])),
    .look "a", .hostBall "a"]

/-- Another robot looks as well, before it, and slows the ball down. -/
def watchingTogether : List (Command Double) :=
  [.makeRobot "a" (some "robot1"), .makeRobot "b" (some "robot2"), .look "b", .look "a",
    .tick (.int 40),
    .host "ball" none (some (.list [.real 0.1, .real 0.0])) none
      (some (.list [.real 1.0, .real 0.0])),
    .look "b", .slowBall "b" none, .look "a", .robotPose "b", .hostBall "a"]

theorem bystanders_are_not_seen_rolling :
    pitch.sights "a" watchingTogether = pitch.sights "a" watching ∧
      (pitch.sights "a" watching).map Except.isOk = [true, true, true] ∧
      (pitch.steps watchingTogether).2.generator.calls.length = 2 ∧
      (pitch.steps watching).2.generator.calls.length = 1 := by
  refine ⟨bystanders_are_not_seen pitch_reliable "a" ?_, ?_, ?_, ?_⟩
  · rfl
  · decide +kernel
  · decide +kernel
  · decide +kernel

end Session
end RobotSoccer
