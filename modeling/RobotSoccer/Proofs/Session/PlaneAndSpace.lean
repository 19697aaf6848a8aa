import Mathlib
import RobotSoccer.Proofs.Session.Twin

/-! One match, played on the plane and in space. In exact arithmetic its robots see and do the same
in both. -/
namespace RobotSoccer

/-- A standing body of a match: its place and velocity in metres, and its heading. -/
structure Standing where
  name : Value ℝ
  place : Vec3 ℝ
  velocity : Vec3 ℝ
  heading : ℝ

noncomputable def Standing.body (variant : Variant) (b : Standing) : Body ℝ :=
  ⟨variant, b.name, variant.placeValue b.place, variant.headingValue b.heading,
    variant.placeValue b.velocity, 0, 0⟩

theorem Standing.twin (b : Standing) : (b.body .planar).Twin (b.body .volumetric) :=
  ⟨rfl, rfl, ⟨b.place, rfl, rfl⟩, ⟨b.heading, rfl, rfl⟩, ⟨b.velocity.level, rfl⟩⟩

/-- What the host and the robots do in a match, in either variant. Positions that robots are given
are in millimetres, and turns are about the z-axis. -/
inductive Move where
  | makeRobot (robot body : String)
  | setBall (body : String)
  | tick (time : Value ℝ)
  | hostPlace (body : String) (place : Vec3 ℝ)
  | hostTurn (body : String) (heading : ℝ)
  | look (robot : String)
  | robotPose (robot : String)
  | placeRobot (robot : String) (inCommonFrame : Bool) (position : Vec3 ℝ) (angle : ℝ)
      (turns stops : Bool)
  | placeBall (robot : String) (inCommonFrame : Bool) (position : Vec3 ℝ) (stops : Bool)

noncomputable def Move.command (variant : Variant) : Move → Command ℝ
  | makeRobot robot body => .makeRobot robot (some body)
  | setBall body => .setBall body
  | tick time => .tick time
  | hostPlace body place => .host body none (some (variant.placeValue place)) none none
  | hostTurn body heading => .host body none none (some (variant.headingValue heading)) none
  | look robot => .look robot
  | robotPose robot => .robotPose robot
  | placeRobot robot inCommonFrame position angle turns stops =>
    .placeRobot robot ⟨inCommonFrame, position.toValue, stops⟩
      (⟨0, 0, angle⟩ : Vec3 ℝ).toValue turns
  | placeBall robot inCommonFrame position stops =>
    .placeBall robot ⟨inCommonFrame, position.toValue, stops⟩

/-- Replies that tell the same, the first one of a match on the plane. -/
inductive Reply.Twin : Reply ℝ → Reply ℝ → Prop
  | robot (team : TeamMember ℝ) (relative : Value ℝ) {m n : Ball.Model ℝ}
      (hm : Ball.onPlane.Models m n) : Twin (.robot team relative m) (.robot team relative n)
  | value (v : Value ℝ) : Twin (.value v) (.value v)
  | body {b c : Body ℝ} (hb : b.Twin c) : Twin (.body b) (.body c)
  | pose {p q : Pose ℝ} (hp : p.Same q) : Twin (.pose p true) (.pose q true)
  | snapshot {w w' : Snapshot ℝ} {m n : Ball.Model ℝ} {b c : Option (Body ℝ)} (hw : w.Twin w')
      (hm : Ball.onPlane.Models m n) (hb : Option.Rel Body.Twin b c) :
      Twin (.snapshot w m b) (.snapshot w' n c)
  | ball {m n : Ball.Model ℝ} {b c : Option (Body ℝ)} (hb : Option.Rel Body.Twin b c)
      (hm : Ball.onPlane.Models m n) : Twin (.ball b m) (.ball c n)

namespace Session

variable {s t : Session ℝ} {r q : Robot ℝ}

theorem Twin.commit (h : s.Twin t) {α β : Type} {R : α → β → Prop}
    {x : Except Fault (α × Session ℝ)} {y : Except Fault (β × Session ℝ)}
    (hxy : Agree (fun a b => R a.1 b.1 ∧ a.2.Twin b.2) x y) :
    Both R (s.commit x) (t.commit y) := by
  cases hxy with
  | error fault => exact ⟨.error fault, h⟩
  | ok hab => exact ⟨.ok hab.1, hab.2⟩

theorem twin_of_balls {x y : Option (String × Body ℝ)}
    (h : Option.Rel (fun a b => a.1 = b.1 ∧ a.2.Twin b.2) x y) :
    Option.Rel Body.Twin (x.map Prod.snd) (y.map Prod.snd) := by
  cases h with
  | none => exact .none
  | some h => exact .some h.2

theorem Twin.ballReply (h : s.Twin t) (name : String) :
    Agree Reply.Twin (s.ballReply name) (t.ballReply name) := by
  refine h.ballBody.bind fun x y hxy => (h.robots name).bind fun r q hr => ?_
  obtain ⟨m, rfl, hm⟩ := hr
  exact .ok (.ball (twin_of_balls hxy) hm)

theorem Twin.lookReply (h : s.Twin t) (hr : r.Twin q) (name : String) :
    Both Reply.Twin (s.lookReply name r) (t.lookReply name q) := by
  have hlook := h.look name hr
  unfold Session.lookReply
  generalize s.look name r = x at hlook ⊢
  generalize t.look name q = y at hlook ⊢
  obtain ⟨x, s'⟩ := x
  obtain ⟨y, t'⟩ := y
  obtain ⟨hseen, hleft⟩ := hlook
  cases hseen with
  | error fault => exact ⟨.error fault, hleft⟩
  | ok hw =>
    refine ⟨(hleft.robots name).bind fun a b hab => hleft.ballBody.bind fun x y hxy => ?_, hleft⟩
    obtain ⟨m, rfl, hm⟩ := hab
    exact .ok (.snapshot hw hm (twin_of_balls hxy))

theorem robotReply_twin (hr : r.Twin q) : Agree Reply.Twin (robotReply r) (robotReply q) := by
  obtain ⟨m, rfl, hm⟩ := hr
  exact .bind_same fun relative => .ok (.robot r.team relative hm)

/-- Each move has twin replies and leaves twin sessions behind. -/
theorem Twin.step (h : s.Twin t) (move : Move) :
    Both Reply.Twin (s.step (move.command .planar)) (t.step (move.command .volumetric)) := by
  cases move with
  | makeRobot robot body =>
    simp only [Move.command, Session.step, Option.elim]
    have hmade := h.makeRobot body
    generalize s.makeRobot body = x at hmade ⊢
    generalize t.makeRobot body = y at hmade ⊢
    cases hmade with
    | error fault => exact ⟨.error fault, h⟩
    | ok hr => exact ⟨robotReply_twin hr, h.setRobot robot hr⟩
  | setBall body =>
    refine h.commit ((h.bodies body).bind fun b c hbc => (h.setBall body).bind fun s' t' h' => ?_)
    rw [h'.nameOf]
    exact .ok ⟨.value _, h'⟩
  | tick time =>
    simp only [Move.command, Session.step, h.clock]
    refine h.commit (.bind_same fun clock => ?_)
    exact .ok ⟨.value clock, h.planar, h.run, rfl, h.generator, h.bodies, h.robots⟩
  | hostPlace body place =>
    refine h.commit ((h.bodies body).bind fun b c hbc => ?_)
    exact .ok ⟨.body (hbc.hostPlaced place), h.setBody (hbc.hostPlaced place)⟩
  | hostTurn body heading =>
    refine h.commit ((h.bodies body).bind fun b c hbc => ?_)
    exact .ok ⟨.body (hbc.hostTurned heading), h.setBody (hbc.hostTurned heading)⟩
  | look robot =>
    simp only [Move.command, Session.step]
    have hr := h.robots robot
    generalize s.robots.get robot = x at hr ⊢
    generalize t.robots.get robot = y at hr ⊢
    cases hr with
    | error fault => exact ⟨.error fault, h⟩
    | ok hr => exact h.lookReply hr robot
  | robotPose robot =>
    refine ⟨(h.robots robot).bind fun r q hr => (h.robotPose hr).bind fun a b hab => ?_, h⟩
    obtain ⟨p, upright⟩ := a
    obtain ⟨p', upright'⟩ := b
    obtain ⟨hp, rfl, rfl⟩ := hab
    exact .ok (.pose hp)
  | placeRobot robot inCommonFrame position angle turns stops =>
    refine h.commit ((h.robots robot).bind fun r q hr => ?_)
    exact (h.placeRobot hr inCommonFrame position angle turns stops).bind fun a b hab =>
      .ok ⟨.body hab.1, hab.2⟩
  | placeBall robot inCommonFrame position stops =>
    refine h.commit ((h.robots robot).bind fun r q hr => ?_)
    exact (h.placeBall hr inCommonFrame position stops).bind fun s' t' h' =>
      (h'.ballReply robot).bind fun a b hab => .ok ⟨hab, h'⟩

theorem Twin.steps (h : s.Twin t) (moves : List Move) :
    List.Forall₂ (Agree Reply.Twin) (s.steps (moves.map (Move.command .planar))).1
        (t.steps (moves.map (Move.command .volumetric))).1 ∧
      (s.steps (moves.map (Move.command .planar))).2.Twin
        (t.steps (moves.map (Move.command .volumetric))).2 := by
  induction moves generalizing s t with
  | nil => exact ⟨.nil, h⟩
  | cons move rest ih =>
    obtain ⟨hreply, hleft⟩ := h.step move
    obtain ⟨hreplies, hend⟩ := ih hleft
    exact ⟨.cons hreply hreplies, hend⟩

/-- A match in one variant: its bodies as they stand, and no robots yet. -/
noncomputable def standing (variant : Variant) (perTeam stepLength friction : Value ℝ)
    (scene : Scene String) (bodies : List (String × Standing)) (clock : Value ℝ)
    (g : Generator ℝ) : Session ℝ :=
  .start (.make variant perTeam stepLength friction scene)
    ⟨bodies.map fun b => (b.1, b.2.body variant)⟩ clock g

theorem standing_bodies (bodies : List (String × Standing)) (name : String) :
    Agree Body.Twin
      ((⟨bodies.map fun b => (b.1, b.2.body .planar)⟩ : Table (Body ℝ)).get name)
      ((⟨bodies.map fun b => (b.1, b.2.body .volumetric)⟩ : Table (Body ℝ)).get name) := by
  induction bodies with
  | nil => exact .error _
  | cons b rest ih =>
    simp only [Table.get, Table.get?, Table.findEntry?, List.map_cons] at ih ⊢
    by_cases hn : b.1 = name
    · simp only [hn, if_true]
      exact .ok b.2.twin
    · simp only [hn, if_false]
      exact ih

/-- In exact arithmetic a match on the plane and one in space agree: of twin bodies, whatever the
host and the robots do, all replies tell the same, and the generator is called alike. -/
theorem plane_and_space_agree (perTeam stepLength friction : Value ℝ) (scene : Scene String)
    (bodies : List (String × Standing)) (clock : Value ℝ) (g : Generator ℝ) (moves : List Move) :
    let onPlane := (standing .planar perTeam stepLength friction scene bodies clock g).steps
      (moves.map (Move.command .planar))
    let inSpace := (standing .volumetric perTeam stepLength friction scene bodies clock g).steps
      (moves.map (Move.command .volumetric))
    List.Forall₂ (Agree Reply.Twin) onPlane.1 inSpace.1 ∧
      onPlane.2.generator.calls = inSpace.2.generator.calls := by
  have h : Twin (standing .planar perTeam stepLength friction scene bodies clock g)
      (standing .volumetric perTeam stepLength friction scene bodies clock g) :=
    ⟨rfl, rfl, rfl, rfl, standing_bodies bodies, fun _ => .error _⟩
  obtain ⟨hreplies, hend⟩ := h.steps moves
  exact ⟨hreplies, congrArg Generator.calls hend.generator.symm⟩

-- a robot that is made and looks around gets its answers
example : ((standing .planar (.int 1) (.int 20) (.int 1) ⟨⟨true, ["robot1", "robot2"]⟩, ⟨true, []⟩⟩
      [("robot1", ⟨.text "robot1", ⟨1, 2, 0⟩, Vec3.zero, 0⟩),
        ("robot2", ⟨.text "robot2", ⟨-1, 0, 0⟩, Vec3.zero, 3⟩)] (.int 0) (.ofScript [])).steps
    ([.makeRobot "a" "robot1", .look "a"].map (Move.command .planar))).1.map Except.isOk =
      [true, true] := by decide +kernel

end Session
end RobotSoccer
