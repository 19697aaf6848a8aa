import RobotSoccer.Proofs.Ball.Update
import RobotSoccer.Proofs.Outcome
import RobotSoccer.Session.Command

/-! What a robot's look leaves behind: its model is fed the ball's place once, and nothing else that
a look can see changes. -/
namespace RobotSoccer

variable {K : Type}

/-- A body at the same place, of any velocity. -/
def Body.SamePlace (b c : Body K) : Prop := ∃ velocity, c = { b with velocity }

theorem Body.SamePlace.refl (b : Body K) : b.SamePlace b := ⟨b.velocity, rfl⟩

theorem Body.SamePlace.symm {b c : Body K} (h : b.SamePlace c) : c.SamePlace b := by
  obtain ⟨velocity, rfl⟩ := h
  exact ⟨b.velocity, rfl⟩

/-- The same body, or one with a vector as its new velocity. -/
def Body.Steered (b c : Body K) : Prop :=
  c = b ∨ ∃ v : Vec2 K, c = { b with velocity := v.toValue }

theorem Body.Steered.samePlace {b c : Body K} (h : b.Steered c) : b.SamePlace c := by
  obtain rfl | ⟨v, rfl⟩ := h
  · exact .refl _
  · exact ⟨_, rfl⟩

theorem Variant.bendPath_steered [Scalar K] {variant : Variant} {angle : Value K} {b c : Body K}
    (h : variant.bendPath angle b = .ok c) : b.Steered c := by
  cases variant with
  | volumetric =>
    cases h
    exact .inl rfl
  | planar =>
    obtain ⟨v, -, h⟩ := ok_of_bind h
    obtain ⟨a, -, h⟩ := ok_of_bind h
    cases h
    exact .inr ⟨_, rfl⟩

theorem Table.agree_set {α β : Type} {R : α → β → Prop} {t : Table α} {u : Table β} {name : String}
    {a : α} {b : β} (h : ∀ other, Agree R (t.get other) (u.get other)) (hab : R a b)
    (other : String) : Agree R ((t.set name a).get other) ((u.set name b).get other) := by
  by_cases hn : other = name
  · rw [hn, get_set_self, get_set_self]
    exact .ok hab
  · rw [get_set_of_ne _ _ hn, get_set_of_ne _ _ hn]
    exact h other

/-- A new value of one name differs from the old one as that of each name does. -/
theorem Table.agree_set_of_get {α : Type} {R : String → α → α → Prop} {t : Table α}
    {name : String} {a b : α} (refl : ∀ other x, R other x x) (h : t.get name = .ok a)
    (hab : R name a b) (other : String) :
    Agree (R other) (t.get other) ((t.set name b).get other) := by
  by_cases hn : other = name
  · rw [hn, h, get_set_self]
    exact .ok hab
  · rw [get_set_of_ne _ _ hn]
    exact .refl (refl other) _

namespace Session

/-- One run at one time, with each body at the same place. -/
structure SameScene (s t : Session K) : Prop where
  run : t.run = s.run
  clock : t.clock = s.clock
  bodies : ∀ name, Agree Body.SamePlace (s.bodies.get name) (t.bodies.get name)

variable {s t u : Session K} {name : String}

theorem SameScene.of_same (hr : t.run = s.run) (hc : t.clock = s.clock)
    (hb : t.bodies = s.bodies) : s.SameScene t := by
  refine ⟨hr, hc, fun name => ?_⟩
  rw [hb]
  exact .refl Body.SamePlace.refl _

theorem SameScene.symm (h : s.SameScene t) : t.SameScene s :=
  ⟨h.run.symm, h.clock.symm, fun name => (h.bodies name).symm fun _ _ => Body.SamePlace.symm⟩

/-- A new velocity of one body leaves the scene as it is. -/
theorem sameScene_setBody {b : Body K} (h : s.bodies.get name = .ok b) (velocity : Value K) :
    s.SameScene (s.setBody name { b with velocity }) :=
  ⟨rfl, rfl, Table.agree_set_of_get (fun _ => Body.SamePlace.refl) h ⟨velocity, rfl⟩⟩

/-- What does not look at velocities reads the same in both sessions. -/
theorem SameScene.read {α : Type} (h : s.SameScene t) {f : Body K → Except Fault α}
    (hf : ∀ b velocity, f { b with velocity } = f b) (name : String) :
    t.bodies.get name >>= f = s.bodies.get name >>= f := by
  have hb := h.bodies name
  generalize s.bodies.get name = b at hb ⊢
  generalize t.bodies.get name = c at hb ⊢
  cases hb with
  | error fault => rfl
  | ok hb =>
    obtain ⟨velocity, rfl⟩ := hb
    exact hf _ _

theorem nameOf_eq (s : Session K) (body : String) :
    s.nameOf body = match s.bodies.get body with
      | .ok b => b.name
      | .error _ => .null := by
  rw [nameOf, Table.get]
  cases s.bodies.get? body <;> rfl

theorem SameScene.nameOf (h : s.SameScene t) : t.nameOf = s.nameOf := by
  funext body
  have hb := h.bodies body
  rw [nameOf_eq, nameOf_eq]
  generalize s.bodies.get body = b at hb ⊢
  generalize t.bodies.get body = c at hb ⊢
  cases hb with
  | error fault => rfl
  | ok hb =>
    obtain ⟨velocity, rfl⟩ := hb
    rfl

theorem ballBody?_of_get {ball : String} {body : Body K} (hball : s.run.ball = some ball)
    (hb : s.bodies.get ball = .ok body) : s.ballBody? = .ok (some (ball, body)) := by
  simp [ballBody?, hball, hb, bind, Except.bind, pure, Except.pure]

theorem get_of_ballBody? {ball : String} {body : Body K}
    (h : s.ballBody? = .ok (some (ball, body))) :
    s.run.ball = some ball ∧ s.bodies.get ball = .ok body := by
  unfold ballBody? at h
  cases hball : s.run.ball with
  | none =>
    rw [hball] at h
    cases h
  | some present =>
    rw [hball] at h
    obtain ⟨found, hb, h⟩ := ok_of_bind h
    cases h
    exact ⟨rfl, hb⟩

theorem noBall_of_ballBody? (h : s.ballBody? = .ok none) : s.run.ball = none := by
  unfold ballBody? at h
  cases hball : s.run.ball with
  | none => rfl
  | some ball =>
    rw [hball] at h
    obtain ⟨found, -, h⟩ := ok_of_bind h
    cases h

variable [Scalar K]

/-- Where a body stands, and whether it stands upright. -/
def poseOf (s : Session K) (body : String) : Except Fault (Pose K × Bool) := do
  s.run.variant.pose (← s.bodies.get body)

/-- Where the ball of a body is. -/
def ballPlace (s : Session K) (ball : String) : Except Fault (Vec3 K) := do
  s.run.variant.ballPosition (← s.bodies.get ball)

theorem robotPose_eq (s : Session K) (r : Robot K) : s.robotPose r = (do
    let (pose, upright) ← s.poseOf r.body
    return (r.frame.pose pose, upright)) := (bind_assoc _ _ _).symm

theorem player_eq (s : Session K) (r : Robot K) (shift : Option (Value K))
    (other : Numbered String) : s.player r shift other = (do
    let (pose, upright) ← s.poseOf other.body
    let number ← shift.elim (.ok (.int other.number)) (Value.int other.number).sub
    return ⟨number, r.frame.pose pose, upright⟩) := (bind_assoc _ _ _).symm

theorem SameScene.poseOf (h : s.SameScene t) : t.poseOf = s.poseOf := by
  funext name
  rw [Session.poseOf, Session.poseOf, h.run]
  exact h.read (fun _ _ => rfl) name

theorem SameScene.ballPlace (h : s.SameScene t) : t.ballPlace = s.ballPlace := by
  funext name
  rw [Session.ballPlace, Session.ballPlace, h.run]
  exact h.read (fun _ _ => rfl) name

theorem SameScene.makeRobot (h : s.SameScene t) : t.makeRobot = s.makeRobot := by
  funext body
  unfold Session.makeRobot
  rw [h.nameOf, h.run]
  exact h.read (fun _ _ => rfl) body

theorem SameScene.hostBall (h : s.SameScene t) : t.hostBall = s.hostBall := by
  unfold Session.hostBall ballBody?
  rw [h.run]
  cases s.run.ball with
  | none => rfl
  | some ball =>
    have hb := h.bodies ball
    dsimp only
    generalize s.bodies.get ball = b at hb ⊢
    generalize t.bodies.get ball = c at hb ⊢
    cases hb with
    | error fault => rfl
    | ok hb =>
      obtain ⟨velocity, rfl⟩ := hb
      rfl

theorem SameScene.robotPose (h : s.SameScene t) : t.robotPose = s.robotPose := by
  funext r
  rw [robotPose_eq, robotPose_eq, h.poseOf]

/-- A snapshot shows the scene and what is given to it of the ball. -/
theorem SameScene.snapshot (h : s.SameScene t) : t.snapshot = s.snapshot := by
  have hplayer : t.player = s.player := by
    funext r shift other
    rw [player_eq, player_eq, h.poseOf]
  funext r seen
  unfold Session.snapshot
  rw [h.robotPose, hplayer, h.run]

theorem look_ballless {robot : Robot K} (hball : s.run.ball = none) :
    s.look name robot = (s.snapshot robot none, s) := by
  simp [look, ballBody?, hball, pure, Except.pure]

/-- A ball that cannot be found leaves everything as it is. -/
theorem look_unseen {robot : Robot K} {ball : String} {fault : Fault}
    (hball : s.run.ball = some ball) (hplace : s.ballPlace ball = .error fault) :
    s.look name robot = (.error fault, s) := by
  unfold Session.ballPlace at hplace
  cases hb : s.bodies.get ball with
  | error fault' =>
    rw [hb] at hplace
    cases hplace
    simp [look, ballBody?, hball, hb, bind, Except.bind]
  | ok body =>
    rw [hb] at hplace
    change s.run.variant.ballPosition body = _ at hplace
    simp [look, lookAtBall, ballBody?_of_get hball hb, hplace]

/-- Bending the ball's path changes no more than the ball's velocity. -/
theorem bendPath_spec {ball : String} {m : Ball.Model K} (h : s.bendPath ball m = .ok t) :
    s.SameScene t ∧ t.robots = s.robots ∧ t.generator = s.generator := by
  unfold bendPath at h
  split at h
  · cases h
    exact ⟨.of_same rfl rfl rfl, rfl, rfl⟩
  · obtain ⟨b, hb, h⟩ := ok_of_bind h
    obtain ⟨c, hc, h⟩ := ok_of_bind h
    cases h
    obtain ⟨velocity, rfl⟩ := (Variant.bendPath_steered hc).samePlace
    exact ⟨sameScene_setBody hb velocity, rfl, rfl⟩

/-- The session after an update of a robot's model. -/
def fed (s : Session K) (name : String) (robot : Robot K) (update : Ball.Update K) : Session K :=
  { s.setRobot name { robot with ball := update.model } with generator := update.generator }

theorem lookAtBall_seen {robot : Robot K} {ball : String} {body : Body K} {seen : Vec3 K}
    {update : Ball.Update K} (hp : s.run.variant.ballPosition body = .ok seen)
    (hu : robot.ball.update s.generator (robot.frame.position seen) s.clock = update) :
    s.lookAtBall name robot ball body =
      match update.outcome with
      | .error fault => (.error fault, s.fed name robot update)
      | .ok velocity =>
        match (s.fed name robot update).bendPath ball update.model with
        | .error fault => (.error fault, s.fed name robot update)
        | .ok t => (.ok ⟨robot.frame.position seen, velocity⟩, t) := by
  subst hu
  simp only [lookAtBall, hp]
  rfl

/-- A ball that is found is fed to the robot's model once, whatever happens afterwards. -/
theorem look_found {robot : Robot K} {ball : String} {seen : Vec3 K} {update : Ball.Update K}
    (name : String) (hball : s.run.ball = some ball) (hplace : s.ballPlace ball = .ok seen)
    (hu : robot.ball.update s.generator (robot.frame.position seen) s.clock = update) :
    s.look name robot =
      match update.outcome with
      | .error fault => (.error fault, s.fed name robot update)
      | .ok velocity =>
        match (s.fed name robot update).bendPath ball update.model with
        | .error fault => (.error fault, s.fed name robot update)
        | .ok t => (t.snapshot robot (some ⟨robot.frame.position seen, velocity⟩), t) := by
  obtain ⟨body, hb, hp⟩ := ok_of_bind hplace
  rw [look, ballBody?_of_get hball hb]
  simp only [lookAtBall_seen hp hu]
  cases update.outcome with
  | error fault => rfl
  | ok velocity =>
    cases (s.fed name robot update).bendPath ball update.model with
    | error fault => rfl
    | ok t => rfl

theorem look_seen {robot : Robot K} {ball : String} {seen : Vec3 K} {update : Ball.Update K}
    (name : String) (hball : s.run.ball = some ball) (hplace : s.ballPlace ball = .ok seen)
    (hu : robot.ball.update s.generator (robot.frame.position seen) s.clock = update) :
    (∃ fault, s.look name robot = (.error fault, s.fed name robot update)) ∨
      ∃ velocity t, update.outcome = .ok velocity ∧
        (s.fed name robot update).bendPath ball update.model = .ok t ∧
        s.look name robot = (t.snapshot robot (some ⟨robot.frame.position seen, velocity⟩), t) := by
  have found := look_found name hball hplace hu
  cases ho : update.outcome with
  | error fault =>
    rw [ho] at found
    exact Or.inl ⟨fault, found⟩
  | ok velocity =>
    cases hbent : (s.fed name robot update).bendPath ball update.model with
    | error fault =>
      rw [ho, hbent] at found
      exact Or.inl ⟨fault, found⟩
    | ok t =>
      rw [ho, hbent] at found
      exact Or.inr ⟨velocity, t, rfl, rfl, found⟩

theorem look_moved {robot : Robot K} {ball : String} {seen velocity : Vec3 K}
    {update : Ball.Update K} (name : String) (hball : s.run.ball = some ball)
    (hplace : s.ballPlace ball = .ok seen)
    (hu : robot.ball.update s.generator (robot.frame.position seen) s.clock = update)
    (ho : update.outcome = .ok velocity)
    (hbent : (s.fed name robot update).bendPath ball update.model = .ok t) :
    s.look name robot = (t.snapshot robot (some ⟨robot.frame.position seen, velocity⟩), t) := by
  simpa only [ho, hbent] using look_found name hball hplace hu

theorem look_fed {robot : Robot K} {ball : String} {seen : Vec3 K} {update : Ball.Update K}
    (name : String) (hball : s.run.ball = some ball) (hplace : s.ballPlace ball = .ok seen)
    (hu : robot.ball.update s.generator (robot.frame.position seen) s.clock = update) :
    s.SameScene (s.look name robot).2 ∧
      (s.look name robot).2.robots = s.robots.set name { robot with ball := update.model } ∧
      (s.look name robot).2.generator = update.generator := by
  obtain ⟨fault, h⟩ | ⟨velocity, t, -, ht, h⟩ := look_seen name hball hplace hu
  · rw [h]
    exact ⟨.of_same rfl rfl rfl, rfl, rfl⟩
  · rw [h]
    obtain ⟨hscene, hrobots, hgenerator⟩ := bendPath_spec ht
    exact ⟨⟨hscene.run, hscene.clock, hscene.bodies⟩, hrobots, hgenerator⟩

theorem step_look {robot : Robot K} (hname : s.robots.get name = .ok robot) :
    s.step (.look name) = s.lookReply name robot := by
  simp [step, hname]

theorem step_look_snd {robot : Robot K} (hname : s.robots.get name = .ok robot) :
    (s.step (.look name)).2 = (s.look name robot).2 := by
  rw [step_look hname, lookReply]
  split <;> simp_all

theorem step_look_ballless (name : String) (hball : s.run.ball = none) :
    (s.step (.look name)).2 = s := by
  cases hname : s.robots.get name with
  | error fault => rw [step, hname]
  | ok robot => rw [step_look_snd hname, look_ballless hball]

/-- A look that answers shows what the robot sees and its model. -/
theorem step_look_ok {robot : Robot K} {reply : Reply K} (hname : s.robots.get name = .ok robot)
    (h : (s.step (.look name)).1 = .ok reply) :
    ∃ w after ball, (s.look name robot).1 = .ok w ∧
      (s.look name robot).2.robots.get name = .ok after ∧ reply = .snapshot w after.ball ball := by
  rw [step_look hname, lookReply] at h
  rcases hl : s.look name robot with ⟨fault | w, t⟩
  · rw [hl] at h
    cases h
  · rw [hl] at h
    obtain ⟨after, hafter, h⟩ := ok_of_bind h
    obtain ⟨ball, -, h⟩ := ok_of_bind h
    cases h
    exact ⟨w, after, _, rfl, hafter, rfl⟩

/-- What a look leaves behind: one robot's model is new, and the generator has been called. -/
structure Looked (s t : Session K) (name : String) (after : Robot K) (calls : List (K × K)) :
    Prop where
  scene : s.SameScene t
  robot : t.robots.get name = .ok after
  others : ∀ other, other ≠ name → t.robots.get other = s.robots.get other
  generator : t.generator = { s.generator with calls := s.generator.calls ++ calls }

theorem looked_unseen {robot : Robot K} {ball : String} {fault : Fault}
    (hname : s.robots.get name = .ok robot) (hball : s.run.ball = some ball)
    (hplace : s.ballPlace ball = .error fault) :
    s.Looked (s.step (.look name)).2 name robot [] := by
  rw [step_look_snd hname, look_unseen hball hplace]
  exact ⟨.of_same rfl rfl rfl, hname, fun _ _ => rfl, by rw [List.append_nil]⟩

theorem looked_seen {robot : Robot K} {ball : String} {seen : Vec3 K} {calls : List (K × K)}
    {update : Ball.Update K} (hname : s.robots.get name = .ok robot)
    (hball : s.run.ball = some ball) (hplace : s.ballPlace ball = .ok seen)
    (hu : robot.ball.update s.generator (robot.frame.position seen) s.clock = update)
    (hcalls : update.generator = { s.generator with calls := s.generator.calls ++ calls }) :
    s.Looked (s.step (.look name)).2 name { robot with ball := update.model } calls := by
  obtain ⟨hscene, hrobots, hgenerator⟩ := look_fed name hball hplace hu
  rw [← step_look_snd hname] at hscene hrobots hgenerator
  refine ⟨hscene, ?_, fun other hne => ?_, hgenerator.trans hcalls⟩
  · rw [hrobots, Table.get_set_self]
  · rw [hrobots, Table.get_set_of_ne _ _ hne]

/-- Whatever a robot sees, its look changes no more than its own model, the generator's record and
velocities. -/
theorem looked {robot : Robot K} {ball : String} (hname : s.robots.get name = .ok robot)
    (hball : s.run.ball = some ball) :
    ∃ m calls, s.Looked (s.step (.look name)).2 name { robot with ball := m } calls := by
  cases hplace : s.ballPlace ball with
  | error fault => exact ⟨robot.ball, [], looked_unseen hname hball hplace⟩
  | ok seen =>
    obtain ⟨calls, hcalls⟩ := Ball.Model.update_generator robot.ball s.generator
      (robot.frame.position seen) s.clock
    exact ⟨_, calls, looked_seen hname hball hplace rfl hcalls⟩

theorem step_look_unseen {robot : Robot K} {ball : String} {fault : Fault}
    (hname : s.robots.get name = .ok robot) (hball : s.run.ball = some ball)
    (hplace : s.ballPlace ball = .error fault) : s.step (.look name) = (.error fault, s) := by
  rw [step_look hname, lookReply, look_unseen hball hplace]

/-- A look that answers shows the ball as the update of the robot's model has it. -/
theorem step_look_seen {robot : Robot K} {ball : String} {seen : Vec3 K} {update : Ball.Update K}
    {w : Snapshot K} {m : Ball.Model K} {c : Option (Body K)}
    (hname : s.robots.get name = .ok robot) (hball : s.run.ball = some ball)
    (hplace : s.ballPlace ball = .ok seen)
    (hu : robot.ball.update s.generator (robot.frame.position seen) s.clock = update)
    (h : (s.step (.look name)).1 = .ok (.snapshot w m c)) :
    m = update.model ∧ ∃ velocity, update.outcome = .ok velocity ∧
      (s.step (.look name)).2.snapshot robot
        (some ⟨robot.frame.position seen, velocity⟩) = .ok w := by
  obtain ⟨v, after, d, hv, hafter, hreply⟩ := step_look_ok hname h
  obtain ⟨-, hrobots, -⟩ := look_fed name hball hplace hu
  rw [hrobots, Table.get_set_self] at hafter
  cases hafter
  cases hreply
  refine ⟨rfl, ?_⟩
  obtain ⟨fault, hl⟩ | ⟨velocity, t, ho, -, hl⟩ := look_seen name hball hplace hu
  · rw [hl] at hv
    cases hv
  · rw [step_look_snd hname, hl]
    rw [hl] at hv
    exact ⟨velocity, ho, hv⟩

end Session
end RobotSoccer
