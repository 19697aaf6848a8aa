import RobotSoccer.Proofs.Session.Change
import RobotSoccer.Proofs.Session.Players

/-! Who owns what in a session. A robot writes to its own body, its own model and the ball, each
only by the commands that are for it, and the ball of a run is the first one that it is given. -/
namespace RobotSoccer

variable {K : Type}

/-- The robot that carries a command out. -/
def Command.operator? : Command K → Option String
  | look name | robotPose name | odometry name _ | hostBall name | placeRobot name _ _ _
  | placeBall name _ | slowBall name _ => some name
  | _ => none

/-- What a robot knows about the ball is fed by a look, and forgotten when it stops the ball. -/
def Command.WritesModel : Command K → Prop
  | look _ => True
  | placeBall _ placement => placement.stops = true
  | _ => False

/-- The ball that a run is given. -/
def Command.ballGiven? : Command K → Option String
  | setBall ball => some ball
  | _ => none

namespace Session

variable {s t : Session K} {command : Command K} {name ball : String} {robot : Robot K}

def hasBody (s : Session K) (body : String) : Bool := (s.bodies.get body).isOk

/-- What a command may make of the body of a name. -/
inductive Writes (s : Session K) : Command K → String → Body K → Body K → Prop
  | nothing {command : Command K} {body : String} {b : Body K} : s.Writes command body b b
  | ownBody {name : String} {placement : Placement K} {angles : Value K} {turns : Bool}
      {robot : Robot K} {b c : Body K} (hr : s.robots.get name = .ok robot) :
      s.Writes (.placeRobot name placement angles turns) robot.body b c
  | ballBody {name ball : String} {placement : Placement K} {b c : Body K}
      (hball : s.run.ball = some ball) : s.Writes (.placeBall name placement) ball b c
  | bent {name ball : String} {b c : Body K} (planar : s.run.variant = .planar)
      (hball : s.run.ball = some ball) (velocity : b.SamePlace c) : s.Writes (.look name) ball b c
  | slowed {name ball : String} {friction : Option (Value K)} {b c : Body K}
      (planar : s.run.variant = .planar) (hball : s.run.ball = some ball)
      (velocity : b.SamePlace c) : s.Writes (.slowBall name friction) ball b c

/-- What a command of a robot leaves alone: the run with its ball, the time, all other robots and
the own team and roster. Models and bodies change only by the commands that write to them. -/
structure Confined (s t : Session K) (command : Command K) (name : String) : Prop where
  run : t.run = s.run
  clock : t.clock = s.clock
  others : ∀ other, other ≠ name → t.robots.get other = s.robots.get other
  own : Agree (fun r q => q = r ∨ command.WritesModel ∧ ∃ m, q = { r with ball := m })
    (s.robots.get name) (t.robots.get name)
  bodies : ∀ body, Agree (s.Writes command body) (s.bodies.get body) (t.bodies.get body)

namespace Confined

theorem refl (s : Session K) (command : Command K) (name : String) : s.Confined s command name :=
  ⟨rfl, rfl, fun _ _ => rfl, .refl (fun _ => .inl rfl) _, fun _ => .refl (fun _ => .nothing) _⟩

theorem setBodies {bodies : Table (Body K)} {generator : Generator K}
    (h : s.Confined t command name)
    (hb : ∀ body, Agree (s.Writes command body) (s.bodies.get body) (bodies.get body)) :
    s.Confined { t with bodies, generator } command name := ⟨h.run, h.clock, h.others, h.own, hb⟩

theorem setBody {body : String} {b c : Body K} (hb : s.bodies.get body = .ok b)
    (hw : s.Writes command body b c) (name : String) :
    s.Confined (s.setBody body c) command name :=
  (refl s command name).setBodies (Table.agree_set_of_get (fun _ _ => .nothing) hb hw)

theorem setModel (h : s.Confined t command name) (hw : command.WritesModel)
    (hr : s.robots.get name = .ok robot) (m : Ball.Model K) :
    s.Confined (t.setRobot name { robot with ball := m }) command name := by
  refine ⟨h.run, h.clock, fun other hne => ?_, ?_, h.bodies⟩
  · exact (Table.get_set_of_ne _ _ hne).trans (h.others other hne)
  · rw [hr, setRobot, Table.get_set_self]
    exact .ok (.inr ⟨hw, m, rfl⟩)

end Confined

variable [Scalar K]

theorem writes_of_drives {bodies : Table (Body K)} (h : s.Drives ball bodies)
    (hw : ∀ b c, s.run.variant = .planar → b.SamePlace c → s.Writes command ball b c)
    (body : String) : Agree (s.Writes command body) (s.bodies.get body) (bodies.get body) := by
  obtain rfl | ⟨planar, b, c, hb, hc, rfl⟩ := h
  · exact .refl (fun _ => .nothing) _
  · exact Table.agree_set_of_get (fun _ _ => .nothing) hb (hw b c planar hc.samePlace) body

/-- Every command of a robot, whatever becomes of it, keeps to what is the robot's. -/
theorem step_confined (s : Session K) (h : command.operator? = some name) :
    s.Confined (s.step command).2 command name := by
  obtain ⟨-, hs⟩ | change := s.step_changed command
  · rw [hs]
    exact .refl s command name
  generalize (s.step command).2 = t at change ⊢
  cases change with
  | asked => exact .refl s command name
  | ballless => exact .refl s command name
  | looked hr hball driven =>
    cases h
    have fed := (Confined.refl s (.look name) name).setModel trivial hr
    exact (fed _).setBodies (writes_of_drives driven fun _ _ planar => .bent planar hball)
  | robotPlaced hr hb =>
    cases h
    exact .setBody hb (.ownBody hr) name
  | @ballPlaced _ ball placement robot b c hr hball hb =>
    cases h
    have placed : s.Confined (s.setBody ball c) (.placeBall name placement) name :=
      .setBody hb (.ballBody hball) name
    split
    · rename_i stops
      exact placed.setModel stops hr _
    · exact placed
  | ballSlowed hball driven =>
    cases h
    exact (Confined.refl s _ name).setBodies
      (writes_of_drives driven fun _ _ planar => .slowed planar hball)
  | made => cases h
  | ballKept => cases h
  | ballSet => cases h
  | ticked => cases h
  | hosted => cases h
  | joined => cases h
  | handled => cases h

omit [Scalar K] in
theorem hasBody_set {b : Body K} (hb : s.bodies.get name = .ok b) (c : Body K) (body : String) :
    ((s.bodies.set name c).get body).isOk = s.hasBody body := by
  by_cases hn : body = name
  · rw [hn, hasBody, hb, Table.get_set_self]
    rfl
  · rw [hasBody, Table.get_set_of_ne _ _ hn]

theorem hasBody_of_drives {bodies : Table (Body K)} (h : s.Drives ball bodies) (body : String) :
    (bodies.get body).isOk = s.hasBody body := by
  obtain rfl | ⟨-, b, c, hb, -, rfl⟩ := h
  · rfl
  · exact hasBody_set hb c body

/-- No command makes a body or takes one away. -/
theorem step_hasBody (s : Session K) (command : Command K) :
    (s.step command).2.hasBody = s.hasBody := by
  obtain ⟨-, hs⟩ | change := s.step_changed command
  · rw [hs]
  generalize (s.step command).2 = t at change ⊢
  funext body
  cases change with
  | asked => rfl
  | ballless => rfl
  | made => rfl
  | ballKept => rfl
  | ballSet => rfl
  | ticked => rfl
  | joined => rfl
  | hosted hb => exact hasBody_set hb _ body
  | looked _ _ driven => exact hasBody_of_drives driven body
  | robotPlaced _ hb => exact hasBody_set hb _ body
  | ballPlaced _ _ hb =>
    split
    · exact hasBody_set hb _ body
    · exact hasBody_set hb _ body
  | ballSlowed _ driven => exact hasBody_of_drives driven body
  | handled hb => exact hasBody_set hb _ body

/-- The first ball is taken. -/
theorem step_setBall_first {b : Body K} (hball : s.run.ball = none)
    (hb : s.bodies.get ball = .ok b) : s.step (.setBall ball) =
      (.ok (.value b.name), { s with run := { s.run with ball := some ball } }) := by
  have hname : ({ s with run := { s.run with ball := some ball } } : Session K).nameOf ball =
      b.name := by rw [nameOf_eq, hb]
  simp [step, setBall, hb, hball, hname, commit, bind, Except.bind, pure, Except.pure]

/-- The ball that a run has can be set again, and no other one. -/
theorem step_setBall_again {given : String} {b : Body K} (hball : s.run.ball = some ball)
    (hb : s.bodies.get given = .ok b) : s.step (.setBall given) =
      (if given = ball then .ok (.value b.name) else .error (.ballTaken (s.nameOf ball).display),
        s) := by
  have hname : s.nameOf given = b.name := by rw [nameOf_eq, hb]
  by_cases hg : given = ball
  · subst hg
    simp [step, setBall, hb, hball, hname, commit, bind, Except.bind, pure, Except.pure]
  · have hne : ball ≠ given := fun e => hg e.symm
    simp [step, setBall, hb, hball, hg, hne, commit, bind, Except.bind]

theorem step_setBall_missing (h : s.hasBody ball = false) :
    (s.step (.setBall ball)).2 = s := by
  cases hb : s.bodies.get ball with
  | error fault =>
    rw [step, hb]
    rfl
  | ok b =>
    rw [hasBody, hb] at h
    cases h

/-- Only `setBall` can change which body is the ball. -/
theorem step_ball_kept (s : Session K) (h : command.ballGiven? = none) :
    (s.step command).2.run.ball = s.run.ball := by
  obtain ⟨-, hs⟩ | change := s.step_changed command
  · rw [hs]
  generalize (s.step command).2 = t at change ⊢
  cases change with
  | ballSet => cases h
  | ballPlaced => split <;> rfl
  | _ => rfl

theorem step_ball (s : Session K) (command : Command K) : (s.step command).2.run.ball =
    s.run.ball.or (command.ballGiven?.filter s.hasBody) := by
  cases hg : command.ballGiven? with
  | none => simp [s.step_ball_kept hg]
  | some given =>
    obtain rfl : command = .setBall given := by
      cases command <;> cases hg
      rfl
    cases has : s.hasBody given with
    | false => simp [step_setBall_missing has, Option.filter, has]
    | true =>
      obtain ⟨b, hb⟩ := answers_of_isOk has
      cases hball : s.run.ball with
      | none => simp [step_setBall_first hball hb, Option.filter, has]
      | some ball => simp [step_setBall_again hball hb, hball]

/-- The ball of a session is the one that it had, or else the first body that it is given. -/
theorem steps_ball (s : Session K) (commands : List (Command K)) :
    (s.steps commands).2.run.ball =
      s.run.ball.or ((commands.filterMap Command.ballGiven?).find? s.hasBody) := by
  induction commands generalizing s with
  | nil => simp [steps]
  | cons command rest ih =>
    have next := ih (s.step command).2
    rw [step_hasBody, step_ball] at next
    change ((s.step command).2.steps rest).2.run.ball = _
    rw [next, Option.or_assoc]
    cases hg : command.ballGiven? with
    | none => rw [List.filterMap_cons_none hg]; rfl
    | some given =>
      rw [List.filterMap_cons_some hg, List.find?_cons]
      cases has : s.hasBody given <;> simp [Option.filter, has]

/-- What the commands about the ball do as long as there is none: nothing, and they tell so. -/
structure WithoutBall (s : Session K) (name : String) (robot : Robot K) : Prop where
  look : s.step (.look name) =
    ((s.snapshot robot none).map fun seen => .snapshot seen robot.ball none, s)
  unseen : ∀ seen, s.snapshot robot none = .ok seen → seen.ball = none
  hostBall : s.step (.hostBall name) = (.ok (.level none), s)
  placeBall : ∀ placement, s.step (.placeBall name placement) =
    ((Coords.ofRow placement.position).map fun _ => .ball none robot.ball, s)
  slowBall : ∀ friction, s.step (.slowBall name friction) = (.ok (.ball none robot.ball), s)

theorem withoutBall (hball : s.run.ball = none) (hr : s.robots.get name = .ok robot) :
    s.WithoutBall name robot := by
  have noBody : s.ballBody? = .ok none := by simp [ballBody?, hball, pure, Except.pure]
  refine ⟨?_, fun seen hseen => (snapshot_shows hseen).1, ?_, fun placement => ?_, fun friction => ?_⟩
  · rw [step_look hr, lookReply, look_ballless hball]
    cases s.snapshot robot none with
    | error fault => rfl
    | ok seen => simp [hr, noBody, Except.map, bind, Except.bind, pure, Except.pure]
  · simp [step, answer, hr, Session.hostBall, noBody, bind, Except.bind, pure, Except.pure]
  · cases hp : (Coords.ofRow placement.position : Except Fault (Coords K)) <;>
      simp [step, commit, hr, hp, Session.placeBall, ballReply, noBody, Except.map, bind,
        Except.bind, pure, Except.pure]
  · simp [step, commit, hr, Session.slowBall, ballReply, noBody, bind, Except.bind, pure,
      Except.pure]

/-- In every state of a session a robot keeps to its own body, its own model and the ball, whatever
becomes of its command. The ball of a whole session is the first body that it is given; it can be
set again, any other body is refused, and without it the commands about the ball do nothing. -/
theorem robots_keep_to_their_own (s : Session K) :
    (∀ command name, command.operator? = some name →
      s.Confined (s.step command).2 command name) ∧
    (∀ commands, (s.steps commands).2.run.ball =
      s.run.ball.or ((commands.filterMap Command.ballGiven?).find? s.hasBody)) ∧
    (∀ ball given b, s.run.ball = some ball → s.bodies.get given = .ok b →
      s.step (.setBall given) = (if given = ball then .ok (.value b.name)
        else .error (.ballTaken (s.nameOf ball).display), s)) ∧
    ∀ name robot, s.run.ball = none → s.robots.get name = .ok robot →
      s.WithoutBall name robot :=
  ⟨fun _ _ => s.step_confined, s.steps_ball, fun _ _ _ => step_setBall_again,
    fun _ _ => withoutBall⟩

end Session
end RobotSoccer
