import Mathlib
import RobotSoccer.Proofs.Ball.Resting
import RobotSoccer.Proofs.Session.RobotPlacement
import RobotSoccer.Proofs.Session.Undisturbed

/-! A ball that a robot places and stops, as this robot sees it until somebody places it again: at
its place and at rest. -/
namespace RobotSoccer.Session

section

variable {K : Type} [Scalar K] {s : Session K} {robot : Robot K} {body : Body K}
  {name ball : String}

/-- The session after a robot has put a body as the ball. If it stopped the ball, it has forgotten
what it knew about it. -/
def withBall (s : Session K) (name : String) (robot : Robot K) (ball : String) (placed : Body K)
    (stops : Bool) : Session K :=
  if stops then (s.setBody ball placed).setRobot name { robot with ball := .fresh }
  else s.setBody ball placed

theorem withBall_ball (placed : Body K) (stops : Bool) :
    (s.withBall name robot ball placed stops).bodies.get ball = .ok placed := by
  cases stops <;> exact Table.get_set_self _ _ _

theorem withBall_robot (hr : s.robots.get name = .ok robot) (placed : Body K) (stops : Bool) :
    (s.withBall name robot ball placed stops).robots.get name =
      .ok { robot with ball := if stops then .fresh else robot.ball } := by
  cases stops with
  | true => exact Table.get_set_self _ _ _
  | false => exact hr

/-- The answer to a placement of the ball in the common frame, and the body that it is placed as. -/
theorem step_placeBall (hr : s.robots.get name = .ok robot) (hball : s.run.ball = some ball)
    (hb : s.bodies.get ball = .ok body) (p : Vec3 K) (stops : Bool) :
    ∃ placed : Body K,
      s.step (.placeBall name ⟨true, p.toValue, stops⟩) =
        (.ok (.ball (some placed) (if stops then .fresh else robot.ball)),
          s.withBall name robot ball placed stops) ∧
      placed.position = s.run.variant.bodyPosition (.spatial (robot.frame.position p)) ∧
      placed.rotation = body.rotation ∧
      (stops = true → ∃ v, placed.levelVelocity = .ok v) := by
  let moved := body.place (s.run.variant.bodyPosition (.spatial (robot.frame.position p))) none
  refine ⟨if stops then moved.stop else moved, ?_, ?_, ?_, ?_⟩
  · generalize hplaced : (if stops then moved.stop else moved) = placed
    have hplace : s.placeBall name robot true (.spatial p) stops =
        .ok (s.withBall name robot ball placed stops) := by
      rw [placeBall, ballBody?_of_get hball hb, ← hplaced]
      cases stops <;> rfl
    have hrun : (s.withBall name robot ball placed stops).run = s.run := by cases stops <;> rfl
    have hget : (s.withBall name robot ball placed stops).bodies.get ball = .ok placed :=
      withBall_ball placed stops
    have hbody := ballBody?_of_get (hrun ▸ hball) hget
    simp only [step, hr, Coords.ofRow_toValue]
    change s.commit (do
      let next ← s.placeBall name robot true (.spatial p) stops
      return (← next.ballReply name, next)) = _
    rw [hplace]
    change s.commit (do
      return (← (s.withBall name robot ball placed stops).ballReply name, _)) = _
    rw [ballReply, hbody, withBall_robot hr]
    rfl
  · cases stops <;> rfl
  · cases stops <;> rfl
  · rintro rfl
    change ∃ v, moved.stop.levelVelocity = .ok v
    have hrest : moved.stop.velocity = Body.rest body.variant := rfl
    refine ⟨Vec2.zero, ?_⟩
    rw [Body.levelVelocity, hrest]
    cases body.variant <;> rfl

end

/-- A look that shows the ball at rest at a place, if it shows anything, and draws no curve
angle. -/
structure ShowsRest (s : Session ℝ) (name : String) (robot : Robot ℝ) (place : Vec3 ℝ) :
    Prop where
  shown : ∀ w m c, (s.step (.look name)).1 = .ok (.snapshot w m c) →
    w.ball = some ⟨place, Vec3.zero⟩ ∧ m.curveAngle = 0
  model : ∃ m, (s.step (.look name)).2.robots.get name = .ok { robot with ball := m } ∧
    m.curveAngle = 0
  undrawn : (s.step (.look name)).2.generator = s.generator

section

variable {s t : Session ℝ} {robot : Robot ℝ} {name ball : String} {seen : Vec3 ℝ}
  {m : Ball.Model ℝ}

theorem Undisturbed.showsRest (h : s.Undisturbed t ball name { robot with ball := m })
    (hball : s.run.ball = some ball) (hplace : s.ballPlace ball = .ok seen)
    (hm : m.Resting (robot.frame.position seen)) :
    t.ShowsRest name robot (robot.frame.position seen) := by
  obtain ⟨hrest, hgenerator, hstill⟩ := hm.update t.generator t.clock
  obtain ⟨hafter, hundrawn⟩ := h.step_own hball hplace rfl
  refine ⟨fun w m' c hreply => ?_, ⟨_, hafter.robot, hrest.curveAngle⟩,
    hundrawn.trans hgenerator⟩
  obtain ⟨rfl, velocity, ho, hw⟩ :=
    step_look_seen h.robot (h.hasBall hball) (h.ballPlace hplace) rfl hreply
  obtain rfl := hstill velocity ho
  exact ⟨(snapshot_shows hw).1, hrest.curveAngle⟩

/-- Whatever is done that leaves the places, a robot knows of no motion of the ball. -/
theorem Undisturbed.steps_resting {commands : List (Command ℝ)}
    (h : s.Undisturbed t ball name { robot with ball := m }) (hball : s.run.ball = some ball)
    (hplace : s.ballPlace ball = .ok seen) (hm : m.Resting (robot.frame.position seen))
    (leave : ∀ c ∈ commands, c.LeavesPlaces) :
    ∃ m' : Ball.Model ℝ, m'.Resting (robot.frame.position seen) ∧
      s.Undisturbed (t.steps commands).2 ball name { robot with ball := m' } := by
  -- only the robot's own looks change its record, and these keep it at rest
  induction commands generalizing t m with
  | nil => exact ⟨m, hm, h⟩
  | cons command commands ih =>
    rw [List.forall_mem_cons] at leave
    by_cases hown : command = .look name
    · subst hown
      obtain ⟨hrest, -, -⟩ := hm.update t.generator t.clock
      obtain ⟨hafter, -⟩ := h.step_own hball hplace rfl
      exact ih hafter hrest leave.2
    · exact ih (h.step_other hball leave.1 hown) hm leave.2

/-- The first look at a ball that a robot knows nothing about changes the robot's record only. -/
theorem Undisturbed.first_look (h : s.Undisturbed t ball name { robot with ball := .fresh })
    (hball : s.run.ball = some ball) (hplace : s.ballPlace ball = .ok seen) :
    ∃ m : Ball.Model ℝ, (t.step (.look name)).2 = t.setRobot name { robot with ball := m } ∧
      s.Undisturbed (t.step (.look name)).2 ball name { robot with ball := m } ∧
      m.Resting (robot.frame.position seen) ∧
      m.sample = some ⟨robot.frame.position seen, t.clock⟩ := by
  have hu := Ball.Model.update_held (g := t.generator) (p := robot.frame.position seen)
    (Ball.Model.since?_of_no_sample (m := .fresh) rfl t.clock)
  obtain ⟨hrest, -, -⟩ := (Ball.Model.Resting.fresh (robot.frame.position seen)).update
    t.generator t.clock
  obtain ⟨hafter, -⟩ := h.step_own hball hplace rfl
  change s.Undisturbed _ ball name { robot with
    ball := (Ball.Model.update .fresh t.generator (robot.frame.position seen) t.clock).model }
    at hafter
  -- without a sample before, the update keeps the velocity, and the path is not bent
  rw [hu] at hrest hafter
  refine ⟨_, ?_, hafter, hrest, rfl⟩
  rw [step_look_snd h.robot,
    look_moved (t := t.fed name _ _) name (h.hasBall hball) (h.ballPlace hplace) hu rfl rfl]
  rfl

end

section

variable {s : Session ℝ} {robot : Robot ℝ} {body placed : Body ℝ} {p : Vec3 ℝ}

/-- The placed ball is seen where it was put. -/
theorem withBall_place (name ball : String)
    (hposition : placed.position = s.run.variant.bodyPosition (.spatial (robot.frame.position p))) :
    ∃ seen, (s.withBall name robot ball placed true).ballPlace ball = .ok seen ∧
      robot.frame.position seen = s.run.variant.levelled 50 p := by
  refine ⟨s.run.variant.levelled 50 (robot.frame.position p), ?_, ?_⟩
  · rw [ballPlace, withBall_ball]
    exact s.run.variant.ballPosition_placed _ hposition
  · rw [Variant.position_levelled, Frame.position_twice _ neg_neg]

theorem withBall_undisturbed {name : String} (ball : String) (hr : s.robots.get name = .ok robot)
    (hvelocity : ∃ v, placed.levelVelocity = .ok v) :
    (s.withBall name robot ball placed true).Undisturbed (s.withBall name robot ball placed true)
      ball name { robot with ball := .fresh } := by
  refine .refl (withBall_robot hr placed true) fun b hb => ?_
  cases (withBall_ball placed true).symm.trans hb
  exact hvelocity

/-- The new place of the ball disturbs no snapshot, even where the ball is a player's body. -/
theorem snapshot_answers_withBall {ball : String} (name : String)
    (hb : s.bodies.get ball = .ok body)
    (hposition : placed.position = s.run.variant.bodyPosition (.spatial (robot.frame.position p)))
    (hrotation : placed.rotation = body.rotation) (m : Ball.Model ℝ)
    (hw : ∃ w, s.snapshot robot none = .ok w) :
    ∃ w, (s.withBall name robot ball placed true).snapshot { robot with ball := m } none =
      .ok w := by
  have hw' : ∃ w, s.snapshot { robot with ball := m } none = .ok w := hw
  refine snapshot_answers_of_readable hw' rfl fun other hother => ?_
  change ∃ q, (s.setBody ball placed).poseOf other = .ok q
  by_cases hn : other = ball
  · rw [hn, poseOf, hb] at hother
    rw [hn, poseOf_setBody]
    exact s.run.variant.pose_answers_placed hposition hrotation hother
  · rwa [poseOf_setBody_of_ne _ _ hn]

end

/-- How a robot's next look after a placement of the ball goes, and the one after it. -/
structure LooksOn (s t : Session ℝ) (name : String) (robot : Robot ℝ) (place : Vec3 ℝ) : Prop where
  /-- The next look changes the robot's record only. -/
  next : ∃ m, (t.step (.look name)).2 = t.setRobot name { robot with ball := m }
  /-- It has an answer if the robot could see itself and the other players before. -/
  answers : (∃ w, s.snapshot robot none = .ok w) →
    ∃ w m c, (t.step (.look name)).1 = .ok (.snapshot w m c)
  /-- So has the one after it, at times that are numbers. It shows the ball at rest as well. -/
  again : ∀ later, (∀ c ∈ later, c.LeavesPlaces) → .look name ∉ later →
    let u := ((t.step (.look name)).2.steps later).2
    u.ShowsRest name robot place ∧
      ∀ n n' : Number ℝ, t.clock = n.toValue → u.clock = n'.toValue →
        (∃ w, s.snapshot robot none = .ok w) →
          ∃ w m c, (u.step (.look name)).1 = .ok (.snapshot w m c)

/-- Whatever a session has come to, a robot that places the ball and stops it sees it in its place
and at rest from then on, however many looks, steps of friction and ticks of the clock there are,
until something is placed or written again. Without a stop no robot's record changes. -/
theorem placed_ball_is_seen_at_rest {s : Session ℝ} (reached : s.Reachable) {name ball : String}
    {robot : Robot ℝ} (hball : s.run.ball = some ball) (hr : s.robots.get name = .ok robot)
    (p : Vec3 ℝ) :
    (∃ reply t, s.step (.placeBall name ⟨true, p.toValue, false⟩) = (.ok reply, t) ∧
      t.robots = s.robots) ∧
    ∃ reply s₁, s.step (.placeBall name ⟨true, p.toValue, true⟩) = (.ok reply, s₁) ∧
      ∀ meanwhile, (∀ c ∈ meanwhile, c.LeavesPlaces) →
        (s₁.steps meanwhile).2.ShowsRest name robot (s.run.variant.levelled 50 p) ∧
        (.look name ∉ meanwhile →
          s.LooksOn (s₁.steps meanwhile).2 name robot (s.run.variant.levelled 50 p)) := by
  obtain ⟨body, hb⟩ := reached.wired.ball ball hball
  refine ⟨?_, ?_⟩
  · obtain ⟨placed, hstep, -⟩ := step_placeBall hr hball hb p false
    exact ⟨_, _, hstep, rfl⟩
  obtain ⟨placed, hstep, hposition, hrotation, hvelocity⟩ := step_placeBall hr hball hb p true
  have hundisturbed := withBall_undisturbed ball hr (hvelocity rfl)
  have hreadable := snapshot_answers_withBall name hb hposition hrotation
  obtain ⟨seen, hplace, hseen⟩ := withBall_place name ball hposition
  rw [← hseen]
  refine ⟨_, _, hstep, fun meanwhile leave => ⟨?_, fun hnext => ?_⟩⟩
  · obtain ⟨m, hm, h⟩ :=
      hundisturbed.steps_resting hball hplace (Ball.Model.Resting.fresh _) leave
    exact h.showsRest hball hplace hm
  · have ht := hundisturbed.steps_others hball leave hnext
    obtain ⟨m, hstate, hafter, hm, hsample⟩ := ht.first_look hball hplace
    refine ⟨⟨m, hstate⟩, fun hw => ?_, fun later hlater hother => ?_⟩
    · exact ht.look_answers hball hplace rfl (Ball.Model.fresh_update_outcome _ _ _)
        (hreadable _ hw)
    · have hu := hafter.steps_others hball hlater hother
      refine ⟨hu.showsRest hball hplace hm, fun n n' hn hn' hw => ?_⟩
      have timed : ∀ last, m.sample = some last → ∃ n : Number ℝ, last.time = n.toValue := by
        rintro last hlast
        obtain rfl := Option.some.inj (hsample.symm.trans hlast)
        exact ⟨n, hn⟩
      obtain ⟨v, ho⟩ := hm.update_answers _ n' timed
      rw [← hn'] at ho
      exact hu.look_answers hball hplace rfl ho (hreadable m hw)

/-- The clock goes on, and an opponent looks at the ball and slows it down. -/
noncomputable def opponentsTurn : List (Command ℝ) :=
  [.tick (.int 40), .look "b", .slowBall "b" none]

/-- A ball on the plane that is placed once another robot is there, which sees it jump. -/
theorem placed_ball_is_seen_at_rest_watched : ∃ A B reply s₁ w m c,
    (hall .planar).makeRobot "robot1" = .ok A ∧ (hall .planar).makeRobot "robot3" = .ok B ∧
      (((hall .planar).setRobot "a" A).setRobot "b" B).step
        (.placeBall "a" ⟨true, (⟨1000, 0, 0⟩ : Vec3 ℝ).toValue, true⟩) = (.ok reply, s₁) ∧
      ((s₁.steps opponentsTurn).2.step (.look "a")).1 = .ok (.snapshot w m c) ∧
      w.ball = some ⟨⟨1000, 0, 50⟩, Vec3.zero⟩ := by
  obtain ⟨A, hA⟩ := hall_makeRobot .planar "robot1" (by simp)
  obtain ⟨B, hB⟩ := hall_makeRobot .planar "robot3" (by simp)
  have reached := ((hall_reachable .planar).makeRobot hA "a").makeRobot hB "b"
  have hr : (((hall .planar).setRobot "a" A).setRobot "b" B).robots.get "a" = .ok A :=
    (Table.get_set_of_ne _ _ (by decide)).trans (Table.get_set_self _ _ _)
  have readable : ((hall .planar).makeRobot "robot1").toOption.map
      (fun r => ((hall .planar).snapshot r none).isOk) = some true := by decide +kernel
  rw [hA] at readable
  obtain ⟨w, hw⟩ := answers_of_isOk (Option.some.inj readable)
  obtain ⟨-, reply, s₁, hstep, hlooks⟩ :=
    placed_ball_is_seen_at_rest reached (hall_ball .planar) hr ⟨1000, 0, 0⟩
  have leave : ∀ c ∈ opponentsTurn, c.LeavesPlaces := by
    simp [opponentsTurn, Command.LeavesPlaces]
  obtain ⟨hrest, hnext⟩ := hlooks opponentsTurn leave
  obtain ⟨w', m, c, hlook⟩ := (hnext (by simp [opponentsTurn])).answers ⟨w, hw⟩
  exact ⟨A, B, reply, s₁, w', m, c, hA, hB, hstep, hlook, (hrest.shown w' m c hlook).1⟩

end RobotSoccer.Session
