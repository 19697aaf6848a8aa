import Mathlib
import RobotSoccer.Proofs.Body.Twin
import RobotSoccer.Proofs.Session.Look

/-! Twin sessions: one on the plane and one in space, with twin bodies and the same robots. What
robots see and do is the same in both. -/
namespace RobotSoccer

/-- One robot, with models that are fed the ball on the plane and the one in space. -/
def Robot.Twin (r q : Robot ℝ) : Prop :=
  ∃ m, q = { r with ball := m } ∧ Ball.onPlane.Models r.ball m

structure Player.Twin (p q : Player ℝ) : Prop where
  number : p.number = q.number
  pose : p.pose.Same q.pose
  upright : p.upright = true ∧ q.upright = true

structure BallSighting.Twin (b c : BallSighting ℝ) : Prop where
  position : Ball.SamePlace b.position c.position
  velocity : Ball.SameMotion b.velocity c.velocity

structure Snapshot.Twin (w w' : Snapshot ℝ) : Prop where
  ownPose : w.ownPose.Same w'.ownPose
  ownTeam : List.Forall₂ Player.Twin w.ownTeam w'.ownTeam
  opponents : List.Forall₂ Player.Twin w.opponents w'.opponents
  ball : Option.Rel BallSighting.Twin w.ball w'.ball

namespace Session

structure Twin (s t : Session ℝ) : Prop where
  planar : s.run.variant = .planar
  run : t.run = { s.run with variant := .volumetric }
  clock : t.clock = s.clock
  generator : t.generator = s.generator
  bodies : ∀ name, Agree Body.Twin (s.bodies.get name) (t.bodies.get name)
  robots : ∀ name, Agree Robot.Twin (s.robots.get name) (t.robots.get name)

/-- Outcomes that agree, with twin sessions left behind. -/
structure Both {α β : Type} (R : α → β → Prop) (x : Except Fault α × Session ℝ)
    (y : Except Fault β × Session ℝ) : Prop where
  outcome : Agree R x.1 y.1
  sessions : Twin x.2 y.2

variable {s t : Session ℝ} {r q : Robot ℝ} {b c : Body ℝ} {name : String}

theorem Twin.setBody (h : s.Twin t) (hb : b.Twin c) : (s.setBody name b).Twin (t.setBody name c) :=
  ⟨h.planar, h.run, h.clock, h.generator, Table.agree_set h.bodies hb, h.robots⟩

theorem Twin.setRobot (h : s.Twin t) (name : String) (hr : r.Twin q) :
    (s.setRobot name r).Twin (t.setRobot name q) :=
  ⟨h.planar, h.run, h.clock, h.generator, h.bodies, Table.agree_set h.robots hr⟩

theorem Twin.volumetric (h : s.Twin t) : t.run.variant = .volumetric := by rw [h.run]

theorem Twin.nameOf (h : s.Twin t) : t.nameOf = s.nameOf := by
  funext body
  have hb := h.bodies body
  rw [nameOf_eq, nameOf_eq]
  generalize s.bodies.get body = b at hb ⊢
  generalize t.bodies.get body = c at hb ⊢
  cases hb with
  | error fault => rfl
  | ok hb => exact hb.name.symm

theorem Twin.ballBody (h : s.Twin t) :
    Agree (Option.Rel fun a b => a.1 = b.1 ∧ a.2.Twin b.2) s.ballBody? t.ballBody? := by
  unfold ballBody?
  rw [h.run]
  cases s.run.ball with
  | none => exact .ok .none
  | some ball => exact (h.bodies ball).bind fun b c hbc => .ok (.some ⟨rfl, hbc⟩)

theorem Twin.pose (h : s.Twin t) (body : String) (f : Frame) :
    Agree (fun a b => (f.pose a.1).Same (f.pose b.1) ∧ a.2 = true ∧ b.2 = true)
      (s.poseOf body) (t.poseOf body) := by
  unfold poseOf
  rw [h.planar, h.volumetric]
  refine (h.bodies body).bind fun b c hbc => ?_
  obtain ⟨p, p', hb, hc, hp⟩ := hbc.pose
  rw [hb, hc]
  exact .ok ⟨hp.inFrame f, rfl, rfl⟩

theorem Twin.robotPose (h : s.Twin t) (hr : r.Twin q) :
    Agree (fun a b => a.1.Same b.1 ∧ a.2 = true ∧ b.2 = true) (s.robotPose r) (t.robotPose q) := by
  obtain ⟨m, rfl, -⟩ := hr
  rw [robotPose_eq, robotPose_eq]
  exact (h.pose r.body r.frame).bind fun a b hab => .ok hab

theorem Twin.player (h : s.Twin t) (hr : r.Twin q) (shift : Option (Value ℝ))
    (other : Numbered String) :
    Agree Player.Twin (s.player r shift other) (t.player q shift other) := by
  obtain ⟨m, rfl, -⟩ := hr
  rw [player_eq, player_eq]
  refine (h.pose other.body r.frame).bind fun a b hab => ?_
  exact .bind_same fun number => .ok ⟨rfl, hab.1, hab.2⟩

theorem Twin.players (h : s.Twin t) (hr : r.Twin q) (shift : Option (Value ℝ))
    (entries : List (Numbered String)) : Agree (List.Forall₂ Player.Twin)
      (entries.mapM (s.player r shift)) (entries.mapM (t.player q shift)) := by
  refine Agree.mapM (P := Eq) (List.forall₂_same.mpr fun _ _ => rfl) ?_
  rintro entry _ rfl
  exact h.player hr shift entry

theorem Twin.snapshot (h : s.Twin t) (hr : r.Twin q) {b c : Option (BallSighting ℝ)}
    (hb : Option.Rel BallSighting.Twin b c) :
    Agree Snapshot.Twin (s.snapshot r b) (t.snapshot q c) := by
  have hpose := h.robotPose hr
  have hplayers := h.players hr
  obtain ⟨m, rfl, -⟩ := hr
  unfold Session.snapshot
  refine hpose.bind fun own own' hown => ?_
  refine (hplayers _ _).bind fun first first' hfirst => ?_
  have hperTeam : t.run.robotsPerTeam = s.run.robotsPerTeam := by rw [h.run]
  rw [hperTeam]
  refine (hplayers _ _).bind fun second second' hsecond => ?_
  cases hteam : r.team.isFirst with
  | true =>
    simp only [ownAndOpposing, if_true]
    exact .ok ⟨hown.1, hfirst, hsecond, hb⟩
  | false =>
    simp only [ownAndOpposing]
    exact .ok ⟨hown.1, hsecond, hfirst, hb⟩

theorem Twin.bendPath (h : s.Twin t) (ball : String) {m n : Ball.Model ℝ}
    (hm : Ball.onPlane.Models m n) : Agree Twin (s.bendPath ball m) (t.bendPath ball n) := by
  have hangle : m.curveAngle = n.curveAngle := hm.angle
  unfold Session.bendPath
  rw [hangle, hm.lastElapsed, h.planar, h.volumetric]
  split
  · exact .ok h
  · refine (h.bodies ball).bind fun b c hbc => ?_
    obtain ⟨b', hb, hc, hbc'⟩ := hbc.bent n.curveAngle
    rw [hb, hc]
    exact .ok (h.setBody hbc')

theorem Twin.lookAtBall (h : s.Twin t) (name : String) (hr : r.Twin q) (ball : String)
    (hb : b.Twin c) :
    Both BallSighting.Twin (s.lookAtBall name r ball b) (t.lookAtBall name q ball c) := by
  obtain ⟨m, rfl, hm⟩ := hr
  obtain ⟨seen, seen', hseen, hseen', hplace⟩ := hb.ballPosition
  have hposition := hplace.inFrame r.frame
  have hdraws : ∀ spread, Agree Ball.onPlane.angle (s.generator.draw 0.0 spread)
      (t.generator.draw 0.0 spread) := by
    intro spread
    rw [h.generator]
    exact .refl (fun _ => rfl) _
  have hupdate := hm.update hposition s.clock hdraws
  generalize hu : r.ball.update s.generator (r.frame.position seen) s.clock = u at hupdate
  generalize hu' : m.update t.generator (r.frame.position seen') s.clock = u' at hupdate
  rw [← h.clock] at hu'
  obtain ⟨houtcome, hmodels, calls, hcalls, hcalls'⟩ := hupdate
  have hfed : (s.fed name r u).Twin (t.fed name { r with ball := m } u') := by
    have hrobot : Robot.Twin { r with ball := u.model } { r with ball := u'.model } :=
      ⟨u'.model, rfl, hmodels⟩
    have hset := h.setRobot name hrobot
    refine ⟨hset.planar, hset.run, hset.clock, ?_, hset.bodies, hset.robots⟩
    rw [fed, fed, hcalls, hcalls', h.generator]
  rw [lookAtBall_seen (by rw [h.planar, hseen]) hu,
    lookAtBall_seen (by rw [h.volumetric, hseen']) hu']
  have hbent := hfed.bendPath ball hmodels
  generalize u.outcome = x at houtcome ⊢
  generalize u'.outcome = y at houtcome ⊢
  cases houtcome with
  | error fault => exact ⟨.error fault, hfed⟩
  | @ok v v' hv =>
    generalize (s.fed name r u).bendPath ball u.model = x at hbent ⊢
    generalize (t.fed name { r with ball := m } u').bendPath ball u'.model = y at hbent ⊢
    cases hbent with
    | error fault => exact ⟨.error fault, hfed⟩
    | ok hbent => exact ⟨.ok ⟨hposition, hv⟩, hbent⟩

theorem Twin.look (h : s.Twin t) (name : String) (hr : r.Twin q) :
    Both Snapshot.Twin (s.look name r) (t.look name q) := by
  have hball := h.ballBody
  unfold Session.look
  generalize s.ballBody? = x at hball ⊢
  generalize t.ballBody? = y at hball ⊢
  cases hball with
  | error fault => exact ⟨.error fault, h⟩
  | ok hball =>
    cases hball with
    | none => exact ⟨h.snapshot hr .none, h⟩
    | @some x y hxy =>
      obtain ⟨ball, b⟩ := x
      obtain ⟨ball', c⟩ := y
      obtain ⟨rfl, hbc⟩ : ball = ball' ∧ b.Twin c := hxy
      have hlook := h.lookAtBall name hr ball hbc
      dsimp only
      generalize s.lookAtBall name r ball b = x at hlook ⊢
      generalize t.lookAtBall name q ball c = y at hlook ⊢
      obtain ⟨x, s'⟩ := x
      obtain ⟨y, t'⟩ := y
      obtain ⟨hseen, hleft⟩ := hlook
      cases hseen with
      | error fault => exact ⟨.error fault, hleft⟩
      | ok hseen => exact ⟨hleft.snapshot hr (.some hseen), hleft⟩

theorem givenEuler_level (f : Frame) (angle : ℝ) :
    ∃ angle', f.givenEuler (.spatial ⟨0, 0, angle⟩) = .ok (.spatial ⟨0, 0, angle'⟩) :=
  ⟨f.heading angle, f.givenEuler_spatial _⟩

theorem Twin.placeRobot (h : s.Twin t) (hr : r.Twin q) (inCommonFrame : Bool) (v : Vec3 ℝ)
    (angle : ℝ) (turns stops : Bool) :
    Agree (fun a b => a.1.Twin b.1 ∧ a.2.Twin b.2)
      (s.placeRobot r inCommonFrame (.spatial v) (.spatial ⟨0, 0, angle⟩) turns stops)
      (t.placeRobot q inCommonFrame (.spatial v) (.spatial ⟨0, 0, angle⟩) turns stops) := by
  obtain ⟨m, rfl, -⟩ := hr
  obtain ⟨angle', hangle⟩ := givenEuler_level (if inCommonFrame then r.frame else ⟨false⟩) angle
  unfold Session.placeRobot
  rw [h.planar, h.volumetric]
  have hframe : ({ r with ball := m } : Robot ℝ).frame = r.frame := rfl
  simp only [hframe, hangle]
  refine (h.bodies r.body).bind fun b c hbc => ?_
  obtain ⟨b', c', hb, hc, hplaced⟩ := hbc.placed
    ((if inCommonFrame then r.frame else ⟨false⟩ : Frame).position v) angle' turns
  have hcoords (f : Frame) : f.coords (.spatial v) = .spatial (f.position v) := rfl
  rw [hcoords, hb, hc]
  cases stops with
  | false => exact .ok ⟨hplaced, h.setBody hplaced⟩
  | true => exact .ok ⟨hplaced.stopped, h.setBody hplaced.stopped⟩

theorem Twin.placeBall (h : s.Twin t) (hr : r.Twin q) (inCommonFrame : Bool) (v : Vec3 ℝ)
    (stops : Bool) : Agree Twin (s.placeBall name r inCommonFrame (.spatial v) stops)
      (t.placeBall name q inCommonFrame (.spatial v) stops) := by
  obtain ⟨m, rfl, -⟩ := hr
  unfold Session.placeBall
  rw [h.planar, h.volumetric]
  refine h.ballBody.bind fun x y hxy => ?_
  cases hxy with
  | none => exact .ok h
  | @some x y hxy =>
    obtain ⟨ball, b⟩ := x
    obtain ⟨ball', c⟩ := y
    obtain ⟨rfl, hbc⟩ : ball = ball' ∧ b.Twin c := hxy
    obtain ⟨b', c', hb, hc, hplaced⟩ := hbc.placed
      ((if inCommonFrame then r.frame else ⟨false⟩ : Frame).position v) 0 false
    change Variant.planar.place _ none b = _ at hb
    change Variant.volumetric.place _ none c = _ at hc
    have hcoords (f : Frame) : f.coords (.spatial v) = .spatial (f.position v) := rfl
    have hframe : ({ r with ball := m } : Robot ℝ).frame = r.frame := rfl
    simp only [hframe, hcoords, hb, hc]
    cases stops with
    | false => exact .ok (h.setBody hplaced)
    | true =>
      exact .ok ((h.setBody hplaced.stopped).setRobot name ⟨.fresh, rfl, Ball.Likeness.fresh _⟩)

theorem Twin.makeRobot (h : s.Twin t) (body : String) :
    Agree Robot.Twin (s.makeRobot body) (t.makeRobot body) := by
  unfold Session.makeRobot
  rw [h.nameOf, h.run]
  refine (h.bodies body).bind fun b c hbc => ?_
  rw [hbc.name]
  exact .bind_same fun number => .bind_same fun team => .bind_same fun roster =>
    .ok ⟨.fresh, rfl, Ball.Likeness.fresh _⟩

theorem Twin.setBall (h : s.Twin t) (ball : String) :
    Agree Twin (s.setBall ball) (t.setBall ball) := by
  unfold Session.setBall
  rw [h.nameOf, h.run]
  cases s.run.ball with
  | none => exact .ok ⟨h.planar, rfl, h.clock, h.generator, h.bodies, h.robots⟩
  | some present =>
    by_cases hp : present = ball
    · simp only [hp, if_true]
      exact .ok h
    · simp only [hp, if_false]
      exact .error _

end Session
end RobotSoccer
