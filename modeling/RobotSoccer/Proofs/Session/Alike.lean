import RobotSoccer.Proofs.Ball.Likeness
import RobotSoccer.Proofs.Session.Change

/-! Sessions that look the same to one robot. The velocities of bodies, curve angles and the draws
so far are never seen, and no command makes sessions look different that differ in these. -/
namespace RobotSoccer

variable {K : Type}

/-- What a robot is told of the world. -/
inductive Sight (K : Type) where
  | world (w : Snapshot K)
  | pose (p : Pose K) (upright : Bool)
  | ball (place : Option (Vec2 K))

def Reply.sight? : Reply K → Option (Sight K)
  | snapshot w _ _ => some (.world w)
  | pose p upright => some (.pose p upright)
  | level place => some (.ball place)
  | _ => none

/-- Two models that differ in the curve angle at most. -/
def Ball.Model.Bent (m n : Ball.Model K) : Prop := ∃ curveAngle, n = { m with curveAngle }

/-- Two records of one robot. Only those of the robot in question have much the same model. -/
structure Robot.AlikeFor (name other : String) (r q : Robot K) : Prop where
  record : ∃ m, q = { r with ball := m }
  model : other = name → r.ball.Bent q.ball

namespace Ball.Model.Bent

variable {m n o : Ball.Model K}

theorem refl (m : Ball.Model K) : m.Bent m := ⟨m.curveAngle, rfl⟩

theorem symm (h : m.Bent n) : n.Bent m := by
  obtain ⟨angle, rfl⟩ := h
  exact ⟨m.curveAngle, rfl⟩

theorem trans (h : m.Bent n) (h' : n.Bent o) : m.Bent o := by
  obtain ⟨angle, rfl⟩ := h
  obtain ⟨angle', rfl⟩ := h'
  exact ⟨angle', rfl⟩

end Ball.Model.Bent

namespace Robot.AlikeFor

variable {name other : String} {r q p : Robot K}

theorem refl (name other : String) (r : Robot K) : r.AlikeFor name other r :=
  ⟨⟨r.ball, rfl⟩, fun _ => .refl r.ball⟩

theorem symm (h : r.AlikeFor name other q) : q.AlikeFor name other r := by
  obtain ⟨m, rfl⟩ := h.record
  exact ⟨⟨r.ball, rfl⟩, fun own => (h.model own).symm⟩

theorem trans (h : r.AlikeFor name other q) (h' : q.AlikeFor name other p) :
    r.AlikeFor name other p := by
  obtain ⟨m, rfl⟩ := h.record
  obtain ⟨n, rfl⟩ := h'.record
  exact ⟨⟨n, rfl⟩, fun own => (h.model own).trans (h'.model own)⟩

end Robot.AlikeFor

variable [Scalar K]

/-- Two bodies in one place. If the velocity of one can be read, so can that of the other. -/
structure Body.Redirected (b c : Body K) : Prop where
  place : b.SamePlace c
  velocity : Agree (fun _ _ => True) b.levelVelocity c.levelVelocity

namespace Ball

/-- Everything but curve angles is the same. -/
def unbent (K : Type) [Scalar K] : Likeness K where
  position := Eq
  velocity := Eq
  angle _ _ := True
  rest := rfl
  straight := trivial
  rolls := by
    rintro v _ rfl
    rfl
  between := by
    rintro p _ q _ rfl rfl elapsed
    exact .refl (fun _ => rfl) _

theorem Model.Bent.models {m n : Model K} (h : m.Bent n) : (unbent K).Models m n := by
  obtain ⟨angle, rfl⟩ := h
  refine ⟨rfl, trivial, rfl, ?_, rfl⟩
  cases m.sample with
  | none => exact .none
  | some sample => exact .some ⟨rfl, rfl⟩

theorem Model.Bent.of_models {m n : Model K} (h : (unbent K).Models m n) : m.Bent n := by
  have hsample : m.sample = n.sample := by
    have hs := h.sample
    generalize m.sample = a at hs ⊢
    generalize n.sample = b at hs ⊢
    cases hs with
    | none => rfl
    | @some a b hab =>
      obtain ⟨place, time⟩ := a
      obtain ⟨place', time'⟩ := b
      obtain ⟨rfl, rfl⟩ : place = place' ∧ time = time' := hab
      rfl
  have hvelocity : m.velocity = n.velocity := h.velocity
  refine ⟨n.curveAngle, ?_⟩
  rw [hsample, hvelocity, h.rolling, h.lastElapsed]

end Ball

namespace Body.Redirected

variable {b c d : Body K}

theorem refl (b : Body K) : b.Redirected b := ⟨.refl b, .refl (fun _ => trivial) _⟩

theorem symm (h : b.Redirected c) : c.Redirected b :=
  ⟨h.place.symm, h.velocity.symm fun _ _ _ => trivial⟩

theorem trans (h : b.Redirected c) (h' : c.Redirected d) : b.Redirected d := by
  obtain ⟨velocity, rfl⟩ := h.place
  obtain ⟨velocity', rfl⟩ := h'.place
  exact ⟨⟨velocity', rfl⟩, h.velocity.trans h'.velocity fun _ _ _ _ _ => trivial⟩

theorem of_driven (h : b.Driven c) : b.Redirected c := by
  obtain ⟨v, w, hv, rfl⟩ := h
  refine ⟨⟨_, rfl⟩, ?_⟩
  have hw : ({ b with velocity := w.toValue } : Body K).levelVelocity = .ok w := rfl
  rw [hv, hw]
  exact .ok trivial

/-- What keeps the velocity of a body keeps its being readable. -/
theorem map {f : Body K → Body K}
    (hf : ∀ b velocity, f { b with velocity } = { f b with velocity }) (h : b.Redirected c) :
    (f b).Redirected (f c) := by
  have kept : ∀ b, (f b).levelVelocity = b.levelVelocity := by
    intro b
    have hb : f b = { f b with velocity := b.velocity } := hf b b.velocity
    rw [hb]
    rfl
  refine ⟨?_, ?_⟩
  · obtain ⟨velocity, rfl⟩ := h.place
    exact ⟨velocity, hf b velocity⟩
  · rw [kept, kept]
    exact h.velocity

theorem turned (h : b.SamePlace c) (v w : Vec2 K) :
    Body.Redirected { b with velocity := v.toValue } { c with velocity := w.toValue } := by
  obtain ⟨velocity, rfl⟩ := h
  exact ⟨⟨w.toValue, rfl⟩, .ok trivial⟩

/-- What is read without the velocity is the same. -/
theorem read {α β : Type} {f : Body K → Except Fault α} {g : α → β} (h : b.Redirected c)
    (hf : ∀ b velocity, f { b with velocity } = f b) :
    Agree (fun x y => x.2.Redirected y.2) (do return (g (← f b), b)) (do return (g (← f c), c)) := by
  have hfc : f c = f b := by
    obtain ⟨velocity, rfl⟩ := h.place
    exact hf b velocity
  rw [hfc]
  exact .bind_same fun _ => .ok h

theorem stop (h : b.Redirected c) : b.stop.Redirected c.stop := by
  obtain ⟨velocity, rfl⟩ := h.place
  exact .refl _

theorem bendPath (h : b.Redirected c) (variant : Variant) (x y : K) :
    Agree Body.Redirected (variant.bendPath (.real x) b) (variant.bendPath (.real y) c) := by
  cases variant with
  | volumetric => exact .ok h
  | planar => exact h.velocity.bind fun v w _ => .ok (turned h.place _ _)

theorem moved (h : b.Redirected c) (position : Value K) (rotation : Option (Value K)) :
    (b.place position rotation).Redirected (c.place position rotation) :=
  h.map (f := fun body => body.place position rotation) fun _ _ => rfl

theorem placed (h : b.Redirected c) (variant : Variant) (position : Coords K)
    (angles : Option (Coords K)) : Agree Body.Redirected (variant.place position angles b)
      (variant.place position angles c) := by
  cases angles with
  | none => exact .ok (h.moved _ _)
  | some angles => exact .bind_same fun rotation => .ok (h.moved _ _)

theorem written (h : b.Redirected c) (name position rotation velocity : Option (Value K)) :
    Body.Redirected
      { b with
        name := name.getD b.name
        position := position.getD b.position
        rotation := rotation.getD b.rotation
        velocity := velocity.getD b.velocity }
      { c with
        name := name.getD c.name
        position := position.getD c.position
        rotation := rotation.getD c.rotation
        velocity := velocity.getD c.velocity } := by
  have hvelocity := h.velocity
  obtain ⟨v, rfl⟩ := h.place
  refine ⟨⟨velocity.getD v, rfl⟩, ?_⟩
  cases velocity with
  | none => exact hvelocity
  | some w => exact .refl (fun _ => trivial) _

end Body.Redirected

namespace Session

variable {s t u : Session K} {command : Command K} {name ball : String} {robot : Robot K}

/-- Two sessions that look the same to one robot: the velocities of bodies, the draws so far, the
curve angle of the robot and all that other robots know of the ball may differ. -/
structure AlikeFor (s t : Session K) (name : String) : Prop where
  run : t.run = s.run
  clock : t.clock = s.clock
  script : t.generator.script = s.generator.script
  bodies : ∀ body, Agree Body.Redirected (s.bodies.get body) (t.bodies.get body)
  robots : ∀ other, Agree (Robot.AlikeFor name other) (s.robots.get other) (t.robots.get other)

theorem redirected_of_drives {bodies : Table (Body K)} (h : s.Drives ball bodies) (body : String) :
    Agree Body.Redirected (s.bodies.get body) (bodies.get body) := by
  obtain rfl | ⟨-, b, c, hb, hc, rfl⟩ := h
  · exact .refl Body.Redirected.refl _
  · exact Table.agree_set_of_get (fun _ => Body.Redirected.refl) hb (.of_driven hc) body

namespace AlikeFor

theorem refl (s : Session K) (name : String) : s.AlikeFor s name :=
  ⟨rfl, rfl, rfl, fun _ => .refl Body.Redirected.refl _,
    fun other => .refl (Robot.AlikeFor.refl name other) _⟩

theorem symm (h : s.AlikeFor t name) : t.AlikeFor s name :=
  ⟨h.run.symm, h.clock.symm, h.script.symm,
    fun body => (h.bodies body).symm fun _ _ => Body.Redirected.symm,
    fun other => (h.robots other).symm fun _ _ => Robot.AlikeFor.symm⟩

theorem trans (h : s.AlikeFor t name) (h' : t.AlikeFor u name) : s.AlikeFor u name :=
  ⟨h'.run.trans h.run, h'.clock.trans h.clock, h'.script.trans h.script,
    fun body => (h.bodies body).trans (h'.bodies body) fun _ _ _ => Body.Redirected.trans,
    fun other => (h.robots other).trans (h'.robots other) fun _ _ _ => Robot.AlikeFor.trans⟩

theorem scene (h : s.AlikeFor t name) : s.SameScene t := by
  refine ⟨h.run, h.clock, fun body => ?_⟩
  have hb := h.bodies body
  generalize s.bodies.get body = b at hb ⊢
  generalize t.bodies.get body = c at hb ⊢
  cases hb with
  | error fault => exact .error fault
  | ok hb => exact .ok hb.place

theorem driven {bodies : Table (Body K)} (name : String) (h : s.Drives ball bodies) :
    s.AlikeFor { s with bodies } name :=
  ⟨rfl, rfl, rfl, redirected_of_drives h, fun other => .refl (Robot.AlikeFor.refl name other) _⟩

end AlikeFor

namespace AlikeFor

variable {b c : Body K} {r q : Robot K} {m n : Ball.Model K}

theorem setBody (h : s.AlikeFor t name) (body : String) (hb : b.Redirected c) :
    (s.setBody body b).AlikeFor (t.setBody body c) name :=
  ⟨h.run, h.clock, h.script, Table.agree_set h.bodies hb, h.robots⟩

theorem setRobot (h : s.AlikeFor t name) {other : String} (hr : r.AlikeFor name other q) :
    (s.setRobot other r).AlikeFor (t.setRobot other q) name := by
  refine ⟨h.run, h.clock, h.script, h.bodies, fun player => ?_⟩
  by_cases hn : player = other
  · subst hn
    rw [Session.setRobot, Session.setRobot, Table.get_set_self, Table.get_set_self]
    exact .ok hr
  · rw [Session.setRobot, Session.setRobot, Table.get_set_of_ne _ _ hn, Table.get_set_of_ne _ _ hn]
    exact h.robots player

theorem ballBody (h : s.AlikeFor t name) :
    Agree (Option.Rel fun a b => a.1 = b.1 ∧ a.2.Redirected b.2) s.ballBody? t.ballBody? := by
  unfold ballBody?
  rw [h.run]
  cases s.run.ball with
  | none => exact .ok .none
  | some ball => exact (h.bodies ball).bind fun b c hbc => .ok (.some ⟨rfl, hbc⟩)

theorem bendPath (h : s.AlikeFor t name) (ball : String) (hm : m.Bent n) :
    Agree (fun s t => s.AlikeFor t name) (s.bendPath ball m) (t.bendPath ball n) := by
  obtain ⟨angle, rfl⟩ := hm
  have elapsed : ({ m with curveAngle := angle } : Ball.Model K).lastElapsed = m.lastElapsed := rfl
  unfold Session.bendPath
  rw [elapsed, h.run]
  split
  · exact .ok h
  · refine (h.bodies ball).bind fun b c hbc => ?_
    exact (hbc.bendPath _ _ _).bind fun b' c' hbc' => .ok (h.setBody ball hbc')

/-- A robot's own look shows the same in both sessions. -/
theorem look (h : s.AlikeFor t name) (reliable : s.generator.Reliable)
    (hr : r.AlikeFor name name q) : (s.look name r).1 = (t.look name q).1 ∧
      (s.look name r).2.AlikeFor (t.look name q).2 name := by
  have hmodel := hr.model rfl
  obtain ⟨m, rfl⟩ := hr.record
  cases hball : s.run.ball with
  | none =>
    have hball' : t.run.ball = none := by rw [h.run, hball]
    rw [look_ballless hball, look_ballless hball', h.scene.snapshot]
    exact ⟨rfl, h⟩
  | some ball =>
    have hball' : t.run.ball = some ball := by rw [h.run, hball]
    cases hplace : s.ballPlace ball with
    | error fault =>
      have hplace' : t.ballPlace ball = .error fault := by rw [h.scene.ballPlace, hplace]
      rw [look_unseen hball hplace, look_unseen hball' hplace']
      exact ⟨rfl, h⟩
    | ok seen =>
      have hplace' : t.ballPlace ball = .ok seen := by rw [h.scene.ballPlace, hplace]
      have samePlace : (Ball.unbent K).position (r.frame.position seen) (r.frame.position seen) :=
        rfl
      have draws : ∀ spread, Agree (Ball.unbent K).angle (s.generator.draw 0.0 spread)
          (t.generator.draw 0.0 spread) := reliable.agree h.script 0.0
      have hupdate := hmodel.models.update samePlace s.clock draws
      generalize hu : r.ball.update s.generator (r.frame.position seen) s.clock = u at hupdate
      generalize hu' : m.update t.generator (r.frame.position seen) s.clock = u' at hupdate
      rw [← h.clock] at hu'
      obtain ⟨houtcome, hmodels, calls, hcalls, hcalls'⟩ := hupdate
      have hbent := Ball.Model.Bent.of_models hmodels
      have hfed : (s.fed name r u).AlikeFor (t.fed name { r with ball := m } u') name := by
        have hrobot : Robot.AlikeFor name name { r with ball := u.model }
            { { r with ball := m } with ball := u'.model } := ⟨⟨_, rfl⟩, fun _ => hbent⟩
        have hset := h.setRobot hrobot
        refine ⟨hset.run, hset.clock, ?_, hset.bodies, hset.robots⟩
        rw [fed, fed, hcalls, hcalls']
        exact h.script
      have hpath := hfed.bendPath ball hbent
      rw [look_found name hball hplace hu, look_found name hball' hplace' hu']
      generalize u.outcome = x at houtcome ⊢
      generalize u'.outcome = y at houtcome ⊢
      cases houtcome with
      | error fault => exact ⟨rfl, hfed⟩
      | @ok v v' hv =>
        generalize (s.fed name r u).bendPath ball u.model = x at hpath ⊢
        generalize (t.fed name { r with ball := m } u').bendPath ball u'.model = y at hpath ⊢
        cases hpath with
        | error fault => exact ⟨rfl, hfed⟩
        | ok hpath =>
          obtain rfl : v = v' := hv
          refine ⟨?_, hpath⟩
          dsimp only
          rw [hpath.scene.snapshot]
          rfl

theorem commit {α β : Type} {x : Except Fault (α × Session K)} {y : Except Fault (β × Session K)}
    (h : s.AlikeFor t name) (hxy : Agree (fun a b => a.2.AlikeFor b.2 name) x y) :
    (s.commit x).2.AlikeFor (t.commit y).2 name := by
  cases hxy with
  | error fault => exact h
  | ok hab => exact hab

theorem placeRobot (h : s.AlikeFor t name) {other : String} (hr : r.AlikeFor name other q)
    (inCommonFrame : Bool) (position angles : Coords K) (turns stops : Bool) :
    Agree (fun a b => a.2.AlikeFor b.2 name)
      (s.placeRobot r inCommonFrame position angles turns stops)
      (t.placeRobot q inCommonFrame position angles turns stops) := by
  obtain ⟨m, rfl⟩ := hr.record
  unfold Session.placeRobot
  rw [h.run]
  refine .bind_same fun given => (h.bodies r.body).bind fun b c hbc => ?_
  refine (hbc.placed _ _ _).bind fun b' c' hbc' => ?_
  cases stops with
  | true => exact .ok (h.setBody r.body hbc'.stop)
  | false => exact .ok (h.setBody r.body hbc')

theorem placeBall (h : s.AlikeFor t name) {other : String} (hr : r.AlikeFor name other q)
    (inCommonFrame : Bool) (position : Coords K) (stops : Bool) :
    Agree (fun a b => a.AlikeFor b name) (s.placeBall other r inCommonFrame position stops)
      (t.placeBall other q inCommonFrame position stops) := by
  obtain ⟨m, rfl⟩ := hr.record
  unfold Session.placeBall
  rw [h.run]
  refine h.ballBody.bind fun x y hxy => ?_
  cases hxy with
  | none => exact .ok h
  | @some x y hxy =>
    obtain ⟨ball, b⟩ := x
    obtain ⟨ball', c⟩ := y
    obtain ⟨rfl, hbc⟩ : ball = ball' ∧ b.Redirected c := hxy
    refine (hbc.placed s.run.variant _ none).bind fun b' c' hbc' => ?_
    cases stops with
    | false => exact .ok (h.setBody ball hbc')
    | true =>
      have forgotten : Robot.AlikeFor name other { r with ball := .fresh }
          { { r with ball := m } with ball := .fresh } := .refl name other _
      exact .ok ((h.setBody ball hbc'.stop).setRobot forgotten)

theorem setBall (h : s.AlikeFor t name) (ball : String) :
    Agree (fun a b => a.AlikeFor b name) (s.setBall ball) (t.setBall ball) := by
  unfold Session.setBall
  rw [h.run, h.scene.nameOf]
  cases s.run.ball with
  | none => exact .ok ⟨rfl, h.clock, h.script, h.bodies, h.robots⟩
  | some present =>
    by_cases hp : present = ball
    · simp only [hp, if_true]
      exact .ok h
    · simp only [hp, if_false]
      exact .error _

theorem ballReply (h : s.AlikeFor t name) (other : String) :
    Agree (fun _ _ => True) (s.ballReply other) (t.ballReply other) :=
  h.ballBody.bind fun _ _ _ => (h.robots other).bind fun _ _ _ => .ok trivial

/-- The answer to a look tells the same in both sessions. -/
theorem lookReply (h : s.AlikeFor t name) (reliable : s.generator.Reliable)
    (hr : r.AlikeFor name name q) :
    (s.lookReply name r).1.map Reply.sight? = (t.lookReply name q).1.map Reply.sight? ∧
      (s.lookReply name r).2.AlikeFor (t.lookReply name q).2 name := by
  obtain ⟨hseen, hleft⟩ := h.look reliable hr
  unfold Session.lookReply
  rcases hs : s.look name r with ⟨x, s'⟩
  rcases ht : t.look name q with ⟨y, t'⟩
  rw [hs, ht] at hseen hleft
  obtain rfl : x = y := hseen
  cases x with
  | error fault => exact ⟨rfl, hleft⟩
  | ok w =>
    refine ⟨?_, hleft⟩
    have hrobot := hleft.robots name
    have hball := hleft.ballBody
    dsimp only at hrobot hball ⊢
    generalize s'.robots.get name = a at hrobot ⊢
    generalize t'.robots.get name = b at hrobot ⊢
    generalize s'.ballBody? = c at hball ⊢
    generalize t'.ballBody? = d at hball ⊢
    cases hrobot with
    | error fault => rfl
    | ok _ => cases hball <;> rfl

end AlikeFor

/-- Another robot's look is not seen. -/
theorem look_unseen_by {other : String} (s : Session K) (hne : other ≠ name) :
    s.AlikeFor (s.step (.look other)).2 name := by
  obtain ⟨-, hs⟩ | change := s.step_changed (.look other)
  · rw [hs]
    exact .refl s name
  generalize (s.step (.look other)).2 = t at change ⊢
  cases change with
  | asked question => exact question.elim
  | ballless => exact .refl s name
  | @looked _ ball r m calls bodies hr hball driven =>
    refine ⟨rfl, rfl, rfl, redirected_of_drives driven, ?_⟩
    refine Table.agree_set_of_get (R := Robot.AlikeFor name) (Robot.AlikeFor.refl name) hr ?_
    exact ⟨⟨m, rfl⟩, fun own => absurd own hne⟩

/-- Friction is not seen, whoever applies it. -/
theorem slowBall_unseen_by (s : Session K) (name other : String) (friction : Option (Value K)) :
    s.AlikeFor (s.step (.slowBall other friction)).2 name := by
  obtain ⟨-, hs⟩ | change := s.step_changed (.slowBall other friction)
  · rw [hs]
    exact .refl s name
  generalize (s.step (.slowBall other friction)).2 = t at change ⊢
  cases change with
  | asked question => exact question.elim
  | ballless => exact .refl s name
  | ballSlowed _ driven => exact .driven name driven

/-- What turns one body is not seen. -/
theorem onBody_unseen (s : Session K) (name : String) {body : String} {request : BodyRequest K}
    (turns : ∀ b reply c, bodyReply s.run.variant b request = .ok (reply, c) →
      s.run.variant = .volumetric ∧ c = b ∨ s.run.variant = .planar ∧ b.Driven c) :
    s.AlikeFor (s.step (.onBody body request)).2 name := by
  refine commit_keeps (P := fun t => s.AlikeFor t name) (.refl s name) fun reply t h => ?_
  obtain ⟨b, hb, h⟩ := ok_of_bind h
  obtain ⟨⟨reply', c⟩, hreply, h⟩ := ok_of_bind h
  cases h
  exact .driven name (drives_set hb (turns b _ c hreply))

theorem onBody_alike (h : s.AlikeFor t name) (body : String) (request : BodyRequest K)
    (hreply : ∀ b c, b.Redirected c → Agree (fun x y => x.2.Redirected y.2)
      (bodyReply s.run.variant b request) (bodyReply s.run.variant c request)) :
    (s.step (.onBody body request)).2.AlikeFor (t.step (.onBody body request)).2 name := by
  refine h.commit ((h.bodies body).bind fun b c hbc => ?_)
  rw [h.run]
  exact (hreply b c hbc).bind fun x y hxy => .ok (h.setBody body hxy)

/-- Every command leaves sessions that look the same to a robot. -/
theorem AlikeFor.step (h : s.AlikeFor t name) (reliable : s.generator.Reliable)
    (command : Command K) : (s.step command).2.AlikeFor (t.step command).2 name := by
  cases command with
  | makeRobot other body =>
    simp only [Session.step, h.scene.makeRobot]
    cases body.elim (.error .missingBody) s.makeRobot with
    | error fault => exact h
    | ok r => exact h.setRobot (.refl name other r)
  | setBall ball =>
    exact h.commit ((h.bodies ball).bind fun _ _ _ => (h.setBall ball).bind fun _ _ h' => .ok h')
  | tick time =>
    simp only [Session.step, h.clock]
    refine h.commit (.bind_same fun clock => ?_)
    exact .ok ⟨h.run, rfl, h.script, h.bodies, h.robots⟩
  | host body bodyName position rotation velocity =>
    refine h.commit ((h.bodies body).bind fun b c hbc => ?_)
    exact .ok (h.setBody body (hbc.written bodyName position rotation velocity))
  | look other =>
    by_cases hn : other = name
    · subst hn
      have hr := h.robots other
      simp only [Session.step]
      generalize s.robots.get other = x at hr ⊢
      generalize t.robots.get other = y at hr ⊢
      cases hr with
      | error fault => exact h
      | ok hr => exact (h.lookReply reliable hr).2
    · exact (s.look_unseen_by hn).symm.trans (h.trans (t.look_unseen_by hn))
  | placeRobot other placement angles turns =>
    refine h.commit ((h.robots other).bind fun r q hr => ?_)
    refine .bind_same fun position => .bind_same fun angles => ?_
    exact (h.placeRobot hr _ _ _ _ _).bind fun _ _ hab => .ok hab
  | placeBall other placement =>
    refine h.commit ((h.robots other).bind fun r q hr => ?_)
    refine .bind_same fun position => (h.placeBall hr _ _ _).bind fun s' t' h' => ?_
    exact (h'.ballReply other).bind fun _ _ _ => .ok h'
  | slowBall other friction =>
    exact (s.slowBall_unseen_by name other friction).symm.trans
      (h.trans (t.slowBall_unseen_by name other friction))
  | addMember group body =>
    refine h.commit (.bind_same fun group => (h.bodies body).bind fun _ _ _ => ?_)
    exact .ok ⟨by rw [h.run], h.clock, h.script, h.bodies, h.robots⟩
  | onBody body request =>
    cases request with
    | bendPath angle =>
      have unseen (u : Session K) : u.AlikeFor (u.step (.onBody body (.bendPath angle))).2 name := by
        refine u.onBody_unseen name fun b reply c hc => ?_
        obtain ⟨b', hb', hc⟩ := ok_of_bind hc
        cases hc
        exact Variant.bendPath_driven hb'
      exact (unseen s).symm.trans (h.trans (unseen t))
    | slowBall friction step =>
      have unseen (u : Session K) :
          u.AlikeFor (u.step (.onBody body (.slowBall friction step))).2 name := by
        refine u.onBody_unseen name fun b reply c hc => ?_
        obtain ⟨b', hb', hc⟩ := ok_of_bind hc
        cases hc
        exact Variant.slowBall_ok hb'
      exact (unseen s).symm.trans (h.trans (unseen t))
    | place position angles =>
      refine onBody_alike h body _ fun b c hbc => ?_
      refine .bind_same fun position => .bind_same fun angles => ?_
      exact (hbc.placed _ _ _).bind fun b' c' hbc' => .ok hbc'
    | stop => exact onBody_alike h body _ fun b c hbc => .ok hbc.stop
    | levelPosition => exact onBody_alike h body _ fun b c hbc => hbc.read fun _ _ => rfl
    | position => exact onBody_alike h body _ fun b c hbc => hbc.read fun _ _ => rfl
    | ballPosition => exact onBody_alike h body _ fun b c hbc => hbc.read fun _ _ => rfl
    | pose =>
      exact onBody_alike h body _ fun b c hbc =>
        hbc.read (g := fun x : Pose K × Bool => Reply.pose x.1 x.2) fun _ _ => rfl
  | robotPose other => exact h
  | odometry other pose => exact h
  | hostBall other => exact h
  | model other => exact h
  | body body => exact h
  | inFirstTeam body robotsPerTeam => exact h
  | numberOf body => exact h

end Session
end RobotSoccer
