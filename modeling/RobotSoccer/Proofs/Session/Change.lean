import RobotSoccer.Proofs.Session.Look

/-! What each command changes, said once. Whatever else is known of a command, it either fails and
leaves the session as it is, or it does one of a few things to it; only a look at the ball can fail
and leave something behind. -/
namespace RobotSoccer

variable {K : Type}

/-- The questions, which change nothing. -/
def Command.IsQuestion : Command K → Prop
  | robotPose _ | odometry _ _ | hostBall _ | model _ | body _ | inFirstTeam _ _ | numberOf _ => True
  | _ => False

/-- The commands that do nothing as long as there is no ball. -/
def Command.NeedsBall : Command K → Prop
  | look _ | placeBall _ _ | slowBall _ _ => True
  | _ => False

variable [Scalar K]

/-- A body whose velocity can be read, and what it is with another vector as its velocity. -/
def Body.Driven (b c : Body K) : Prop :=
  ∃ v w : Vec2 K, b.levelVelocity = .ok v ∧ c = { b with velocity := w.toValue }

theorem Body.Driven.samePlace {b c : Body K} (h : b.Driven c) : b.SamePlace c := by
  obtain ⟨v, w, -, rfl⟩ := h
  exact ⟨_, rfl⟩

theorem Variant.bendPath_ok {variant : Variant} {angle : K} {b c : Body K}
    (h : variant.bendPath (.real angle) b = .ok c) :
    variant = .volumetric ∧ c = b ∨ variant = .planar ∧ ∃ v, b.levelVelocity = .ok v ∧
      c = { b with velocity := (v.rotateBy (.exact angle)).toValue } := by
  cases variant with
  | volumetric =>
    cases h
    exact .inl ⟨rfl, rfl⟩
  | planar =>
    obtain ⟨v, hv, h⟩ := ok_of_bind h
    cases h
    exact .inr ⟨rfl, v, hv, rfl⟩

theorem Variant.bendPath_driven {variant : Variant} {angle : Value K} {b c : Body K}
    (h : variant.bendPath angle b = .ok c) :
    variant = .volumetric ∧ c = b ∨ variant = .planar ∧ b.Driven c := by
  cases variant with
  | volumetric =>
    cases h
    exact .inl ⟨rfl, rfl⟩
  | planar =>
    obtain ⟨v, hv, h⟩ := ok_of_bind h
    obtain ⟨a, -, h⟩ := ok_of_bind h
    cases h
    exact .inr ⟨rfl, v, _, hv, rfl⟩

theorem Variant.slowBall_ok {variant : Variant} {friction step : Value K} {b c : Body K}
    (h : variant.slowBall friction step b = .ok c) :
    variant = .volumetric ∧ c = b ∨ variant = .planar ∧ b.Driven c := by
  cases variant with
  | volumetric =>
    cases h
    exact .inl ⟨rfl, rfl⟩
  | planar =>
    obtain ⟨v, hv, h⟩ := ok_of_bind h
    obtain ⟨w, -, h⟩ := ok_of_bind h
    cases h
    exact .inr ⟨rfl, v, w, hv, rfl⟩

theorem Body.Driven.steered {b c : Body K} (h : b.Driven c) : b.Steered c := by
  obtain ⟨v, w, -, rfl⟩ := h
  exact .inr ⟨w, rfl⟩

namespace Session

variable {s t : Session K} {name ball : String} {robot : Robot K}

/-- The bodies of a session, or on a plane those with another velocity of one of them. -/
def Drives (s : Session K) (name : String) (bodies : Table (Body K)) : Prop :=
  bodies = s.bodies ∨ s.run.variant = .planar ∧
    ∃ b c, s.bodies.get name = .ok b ∧ b.Driven c ∧ bodies = s.bodies.set name c

theorem drives_set {b c : Body K} (hb : s.bodies.get name = .ok b)
    (h : s.run.variant = .volumetric ∧ c = b ∨ s.run.variant = .planar ∧ b.Driven c) :
    s.Drives name (s.bodies.set name c) := by
  obtain ⟨-, rfl⟩ | ⟨planar, hc⟩ := h
  · exact .inl (Table.set_of_get hb)
  · exact .inr ⟨planar, b, c, hb, hc, rfl⟩

theorem bodies_of_drives {bodies : Table (Body K)} (h : s.Drives name bodies)
    (volumetric : s.run.variant = .volumetric) : bodies = s.bodies := by
  obtain h | ⟨planar, -⟩ := h
  · exact h
  · cases planar.symm.trans volumetric

/-- What a command does to a session. The bodies and records that it writes are named, with what
they are before; what is not named stays. -/
inductive Change (s : Session K) : Command K → Session K → Prop
  | asked {command : Command K} (h : command.IsQuestion) : s.Change command s
  | ballless {command : Command K} (h : command.NeedsBall) (noBall : s.run.ball = none) :
      s.Change command s
  | made {name body : String} {robot : Robot K} (h : s.makeRobot body = .ok robot) :
      s.Change (.makeRobot name (some body)) (s.setRobot name robot)
  | ballKept {ball : String} (h : s.run.ball = some ball) : s.Change (.setBall ball) s
  | ballSet {ball : String} {b : Body K} (hb : s.bodies.get ball = .ok b)
      (noBall : s.run.ball = none) :
      s.Change (.setBall ball) { s with run := { s.run with ball := some ball } }
  | ticked {time clock : Value K} (h : s.clock.advance time = .ok clock) :
      s.Change (.tick time) { s with clock }
  | hosted {name : String} {bodyName position rotation velocity : Option (Value K)} {b c : Body K}
      (hb : s.bodies.get name = .ok b) :
      s.Change (.host name bodyName position rotation velocity) (s.setBody name c)
  | looked {name ball : String} {robot : Robot K} {m : Ball.Model K} {calls : List (K × K)}
      {bodies : Table (Body K)} (hr : s.robots.get name = .ok robot)
      (hball : s.run.ball = some ball) (driven : s.Drives ball bodies) :
      s.Change (.look name) { s.setRobot name { robot with ball := m } with
        bodies, generator := { s.generator with calls := s.generator.calls ++ calls } }
  | robotPlaced {name : String} {placement : Placement K} {angles : Value K} {turns : Bool}
      {robot : Robot K} {b c : Body K} (hr : s.robots.get name = .ok robot)
      (hb : s.bodies.get robot.body = .ok b) :
      s.Change (.placeRobot name placement angles turns) (s.setBody robot.body c)
  | ballPlaced {name ball : String} {placement : Placement K} {robot : Robot K} {b c : Body K}
      (hr : s.robots.get name = .ok robot) (hball : s.run.ball = some ball)
      (hb : s.bodies.get ball = .ok b) :
      s.Change (.placeBall name placement)
        (if placement.stops then (s.setBody ball c).setRobot name { robot with ball := .fresh }
          else s.setBody ball c)
  | ballSlowed {name ball : String} {friction : Option (Value K)} {bodies : Table (Body K)}
      (hball : s.run.ball = some ball) (driven : s.Drives ball bodies) :
      s.Change (.slowBall name friction) { s with bodies }
  | joined {group body : String} {scene : Scene String} :
      s.Change (.addMember group body) { s with run := { s.run with scene } }
  | handled {name : String} {request : BodyRequest K} {b c : Body K}
      (hb : s.bodies.get name = .ok b) : s.Change (.onBody name request) (s.setBody name c)

omit [Scalar K] in
/-- A command that fails changes nothing. -/
theorem commit_keeps {α : Type} {P : Session K → Prop} {x : Except Fault (α × Session K)} (h : P s)
    (hx : ∀ a t, x = .ok (a, t) → P t) : P (s.commit x).2 := by
  cases x with
  | error fault => exact h
  | ok next => exact hx _ _ rfl

/-- A command fails and changes nothing, or makes its change. -/
def Changed (s : Session K) (command : Command K) (x : Except Fault (Reply K) × Session K) : Prop :=
  (∃ fault, x.1 = .error fault) ∧ x.2 = s ∨ s.Change command x.2

theorem changed_commit {command : Command K} {x : Except Fault (Reply K × Session K)}
    (h : ∀ reply t, x = .ok (reply, t) → s.Change command t) : s.Changed command (s.commit x) := by
  cases x with
  | error fault => exact .inl ⟨⟨fault, rfl⟩, rfl⟩
  | ok next => exact .inr (h _ _ rfl)

theorem bendPath_ok {m : Ball.Model K} (h : s.bendPath ball m = .ok t) :
    m.lastElapsed = none ∧ t = s ∨ m.lastElapsed.isSome = true ∧ ∃ b c, s.bodies.get ball = .ok b ∧
      s.run.variant.bendPath (.real m.curveAngle) b = .ok c ∧ t = s.setBody ball c := by
  unfold bendPath at h
  cases he : m.lastElapsed with
  | none =>
    rw [he] at h
    cases h
    exact .inl ⟨rfl, rfl⟩
  | some elapsed =>
    rw [he] at h
    obtain ⟨b, hb, h⟩ := ok_of_bind h
    obtain ⟨c, hc, h⟩ := ok_of_bind h
    cases h
    exact .inr ⟨rfl, b, c, hb, hc, rfl⟩

theorem bendPath_drives {m : Ball.Model K} (h : s.bendPath ball m = .ok t) :
    s.Drives ball t.bodies ∧ t = { s with bodies := t.bodies } := by
  obtain ⟨-, rfl⟩ | ⟨-, b, c, hb, hc, rfl⟩ := bendPath_ok h
  · exact ⟨.inl rfl, rfl⟩
  · exact ⟨drives_set hb (Variant.bendPath_driven hc), rfl⟩

/-- A look at a ball that cannot be found fails and changes nothing. Any other one leaves a new
model, however it ends. -/
theorem look_changed (hr : s.robots.get name = .ok robot) :
    s.Changed (.look name) (s.step (.look name)) := by
  cases hball : s.run.ball with
  | none =>
    refine .inr ?_
    rw [step_look_ballless name hball]
    exact .ballless trivial hball
  | some ball =>
    cases hplace : s.ballPlace ball with
    | error fault =>
      rw [step_look_unseen hr hball hplace]
      exact .inl ⟨⟨fault, rfl⟩, rfl⟩
    | ok seen =>
      refine .inr ?_
      obtain ⟨calls, hcalls⟩ := Ball.Model.update_generator robot.ball s.generator
        (robot.frame.position seen) s.clock
      rw [step_look_snd hr]
      obtain ⟨fault, h⟩ | ⟨velocity, t, -, ht, h⟩ := look_seen name hball hplace rfl
      · rw [h]
        simp only [fed, hcalls]
        exact .looked hr hball (.inl rfl)
      · rw [h]
        obtain ⟨hdrives, hbent⟩ := bendPath_drives ht
        rw [hbent]
        simp only [fed, hcalls]
        exact .looked hr hball hdrives

theorem slowBall_changed (name : String) {friction : Option (Value K)}
    (h : s.slowBall friction = .ok t) : s.Change (.slowBall name friction) t := by
  obtain ⟨found, hfound, h⟩ := ok_of_bind h
  cases found with
  | none =>
    cases h
    exact .ballless trivial (noBall_of_ballBody? hfound)
  | some found =>
    obtain ⟨ball, b⟩ := found
    obtain ⟨hball, hb⟩ := get_of_ballBody? hfound
    obtain ⟨c, hc, h⟩ := ok_of_bind h
    cases h
    exact .ballSlowed hball (drives_set hb (Variant.slowBall_ok hc))

/-- A placement of a robot moves its body. -/
theorem placeRobot_spec {robot : Robot K} {inCommonFrame turns stops : Bool}
    {position angles : Coords K} {placed : Body K}
    (h : s.placeRobot robot inCommonFrame position angles turns stops = .ok (placed, t)) :
    t = s.setBody robot.body placed := by
  obtain ⟨given, -, h⟩ := ok_of_bind h
  obtain ⟨body, -, h⟩ := ok_of_bind h
  obtain ⟨moved, -, h⟩ := ok_of_bind h
  cases h
  rfl

theorem placeBall_changed {placement : Placement K} {position : Coords K}
    (hr : s.robots.get name = .ok robot)
    (h : s.placeBall name robot placement.inCommonFrame position placement.stops = .ok t) :
    s.Change (.placeBall name placement) t := by
  obtain ⟨found, hfound, h⟩ := ok_of_bind h
  cases found with
  | none =>
    cases h
    exact .ballless trivial (noBall_of_ballBody? hfound)
  | some found =>
    obtain ⟨ball, b⟩ := found
    obtain ⟨hball, hb⟩ := get_of_ballBody? hfound
    obtain ⟨c, -, h⟩ := ok_of_bind h
    have change (d : Body K) : s.Change (.placeBall name placement)
        (if placement.stops then (s.setBody ball d).setRobot name { robot with ball := .fresh }
          else s.setBody ball d) := .ballPlaced hr hball hb
    cases hstops : placement.stops with
    | true =>
      rw [hstops] at h
      cases h
      simpa [hstops] using change c.stop
    | false =>
      rw [hstops] at h
      cases h
      simpa [hstops] using change c

/-- What a command does: nothing if it fails, and else its change. -/
theorem step_changed (s : Session K) (command : Command K) :
    s.Changed command (s.step command) := by
  cases command with
  | makeRobot name body =>
    simp only [step]
    cases hr : body.elim (.error .missingBody) s.makeRobot with
    | error fault => exact .inl ⟨⟨fault, rfl⟩, rfl⟩
    | ok robot =>
      cases body with
      | none => cases hr
      | some body => exact .inr (.made hr)
  | setBall ball =>
    refine changed_commit fun reply t h => ?_
    obtain ⟨b, hb, h⟩ := ok_of_bind h
    obtain ⟨next, hnext, h⟩ := ok_of_bind h
    cases h
    unfold setBall at hnext
    split at hnext
    · rename_i present hpresent
      split at hnext
      · rename_i same
        cases hnext
        exact .ballKept (same ▸ hpresent)
      · cases hnext
    · rename_i noBall
      cases hnext
      exact .ballSet hb noBall
  | tick time =>
    refine changed_commit fun reply t h => ?_
    obtain ⟨clock, hclock, h⟩ := ok_of_bind h
    cases h
    exact .ticked hclock
  | host name bodyName position rotation velocity =>
    refine changed_commit fun reply t h => ?_
    obtain ⟨b, hb, h⟩ := ok_of_bind h
    cases h
    exact .hosted hb
  | look name =>
    cases hr : s.robots.get name with
    | error fault =>
      simp only [step, hr]
      exact .inl ⟨⟨fault, rfl⟩, rfl⟩
    | ok robot => exact look_changed hr
  | placeRobot name placement angles turns =>
    refine changed_commit fun reply t h => ?_
    obtain ⟨robot, hr, h⟩ := ok_of_bind h
    obtain ⟨position, -, h⟩ := ok_of_bind h
    obtain ⟨angles, -, h⟩ := ok_of_bind h
    obtain ⟨⟨placed, next⟩, hplaced, h⟩ := ok_of_bind h
    cases h
    rw [placeRobot_spec hplaced]
    obtain ⟨given, -, hplaced⟩ := ok_of_bind hplaced
    obtain ⟨b, hb, -⟩ := ok_of_bind hplaced
    exact .robotPlaced hr hb
  | placeBall name placement =>
    refine changed_commit fun reply t h => ?_
    obtain ⟨robot, hr, h⟩ := ok_of_bind h
    obtain ⟨position, -, h⟩ := ok_of_bind h
    obtain ⟨next, hnext, h⟩ := ok_of_bind h
    obtain ⟨reply', -, h⟩ := ok_of_bind h
    cases h
    exact placeBall_changed hr hnext
  | slowBall name friction =>
    refine changed_commit fun reply t h => ?_
    obtain ⟨robot, hr, h⟩ := ok_of_bind h
    obtain ⟨next, hnext, h⟩ := ok_of_bind h
    obtain ⟨reply', -, h⟩ := ok_of_bind h
    cases h
    exact slowBall_changed name hnext
  | addMember group body =>
    refine changed_commit fun reply t h => ?_
    obtain ⟨group, -, h⟩ := ok_of_bind h
    obtain ⟨b, -, h⟩ := ok_of_bind h
    cases h
    exact .joined
  | onBody name request =>
    refine changed_commit fun reply t h => ?_
    obtain ⟨b, hb, h⟩ := ok_of_bind h
    obtain ⟨⟨reply', c⟩, -, h⟩ := ok_of_bind h
    cases h
    exact .handled hb
  | robotPose name => exact .inr (.asked trivial)
  | odometry name pose => exact .inr (.asked trivial)
  | hostBall name => exact .inr (.asked trivial)
  | model name => exact .inr (.asked trivial)
  | body name => exact .inr (.asked trivial)
  | inFirstTeam name robotsPerTeam => exact .inr (.asked trivial)
  | numberOf name => exact .inr (.asked trivial)

/-- No command changes what the generator draws from. -/
theorem step_script (s : Session K) (command : Command K) :
    (s.step command).2.generator.script = s.generator.script := by
  obtain ⟨-, hs⟩ | change := s.step_changed command
  · rw [hs]
  generalize (s.step command).2 = t at change ⊢
  cases change with
  | ballPlaced => split <;> rfl
  | _ => rfl

theorem step_variant (s : Session K) (command : Command K) :
    (s.step command).2.run.variant = s.run.variant := by
  obtain ⟨-, hs⟩ | change := s.step_changed command
  · rw [hs]
  generalize (s.step command).2 = t at change ⊢
  cases change with
  | ballPlaced => split <;> rfl
  | _ => rfl

/-- Time passes in no other way. -/
theorem step_clock (s : Session K) {command : Command K} (h : ∀ time, command ≠ .tick time) :
    (s.step command).2.clock = s.clock := by
  obtain ⟨-, hs⟩ | change := s.step_changed command
  · rw [hs]
  generalize (s.step command).2 = t at change ⊢
  cases change with
  | ticked => exact absurd rfl (h _)
  | ballPlaced => split <;> rfl
  | _ => rfl

theorem steps_variant (s : Session K) (commands : List (Command K)) :
    (s.steps commands).2.run.variant = s.run.variant := by
  induction commands generalizing s with
  | nil => rfl
  | cons command rest ih => exact (ih _).trans (s.step_variant command)

end Session
end RobotSoccer
