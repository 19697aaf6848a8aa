import Mathlib
import RobotSoccer.Proofs.Body.Placement
import RobotSoccer.Proofs.Geometry.Frame
import RobotSoccer.Proofs.Session.Reachable

/-! A robot that is placed in the common frame, as it reads itself and as its teammates see it. -/
namespace RobotSoccer

/-- A vector that is written as a row is read back. -/
theorem Coords.ofRow_toValue {K : Type} [Scalar K] (v : Vec3 K) :
    Coords.ofRow v.toValue = .ok (.spatial v) := rfl

/-- No motion is a row of zeros, three in space and two on the plane. -/
theorem Body.rest_eq (variant : Variant) : (Body.rest variant : Value ℝ) =
    .list (List.replicate (if variant = .planar then 2 else 3) (.real 0)) := by
  cases variant <;> simp [rest, Vec2.zero, Vec3.zero, Vec2.toValue, Vec3.toValue, List.replicate]

namespace Session

section

variable {K : Type} [Scalar K] {s : Session K} {robot : Robot K} {body : Body K} {name : String}

/-- The heading of a robot in the common frame, wherever it is, and whether it stands upright. -/
def facing (s : Session K) (robot : Robot K) : Except Fault (K × Bool) := do
  let (heading, upright) ← s.run.variant.facing (← s.bodies.get robot.body)
  return (robot.frame.heading heading, upright)

theorem facing_eq (hb : s.bodies.get robot.body = .ok body) : s.facing robot = (do
    let (heading, upright) ← s.run.variant.facing body
    return (robot.frame.heading heading, upright)) := by
  rw [facing, hb]
  rfl

/-- A robot's pose has its heading from where it faces and its place from its body. -/
theorem robotPose_of_place {place : Vec2 K} (hb : s.bodies.get robot.body = .ok body)
    (hplace : s.run.variant.levelPosition body = .ok place) : s.robotPose robot = (do
      let (heading, upright) ← s.facing robot
      return (⟨heading, robot.frame.levelPosition place⟩, upright)) := by
  rw [robotPose, facing_eq hb, hb]
  change (do
    let q ← s.run.variant.pose body
    return (robot.frame.pose q.1, q.2)) = _
  rw [s.run.variant.pose_eq hplace]
  cases s.run.variant.facing body with
  | error fault => rfl
  | ok f => exact congrArg (fun q => Except.ok (q, f.2)) (Frame.pose_eq _ _)

theorem facing_of_robotPose {p : Pose K} {upright : Bool}
    (h : s.robotPose robot = .ok (p, upright)) : s.facing robot = .ok (p.rotation, upright) := by
  obtain ⟨body, hb, h⟩ := ok_of_bind h
  obtain ⟨⟨q, stands⟩, hq, h⟩ := ok_of_bind h
  cases h
  rw [facing_eq hb, s.run.variant.facing_of_pose hq, Frame.pose_eq]
  rfl

theorem facing_planar_upright {heading : K} {upright : Bool} (hv : s.run.variant = .planar)
    (h : s.facing robot = .ok (heading, upright)) : upright = true := by
  obtain ⟨body, hb, h⟩ := ok_of_bind h
  obtain ⟨⟨heading, stands⟩, hfacing, h⟩ := ok_of_bind h
  cases h
  rw [hv] at hfacing
  exact Variant.facing_planar_upright hfacing

theorem robotPose_answers_iff :
    (∃ q, s.robotPose robot = .ok q) ↔ ∃ q, s.poseOf robot.body = .ok q := by
  rw [robotPose_eq]
  cases s.poseOf robot.body with
  | error fault => exact ⟨nofun, nofun⟩
  | ok q => exact ⟨fun _ => ⟨q, rfl⟩, fun _ => ⟨_, rfl⟩⟩

/-- The answer to a placement of a robot in the common frame, and the body that it is placed as. -/
theorem step_placeRobot (hr : s.robots.get name = .ok robot)
    (hb : s.bodies.get robot.body = .ok body) (p angles : Vec3 K) (turns stops : Bool)  :
    ∃ placed : Body K,
      s.step (.placeRobot name ⟨true, p.toValue, stops⟩ angles.toValue turns) =
        (.ok (.body placed), s.setBody robot.body placed) ∧
      placed.position = s.run.variant.bodyPosition (.spatial (robot.frame.position p)) ∧
      (turns = true →
        s.run.variant.bodyRotation (.spatial (robot.frame.euler angles)) = .ok placed.rotation) ∧
      (turns = false → placed.rotation = body.rotation) ∧
      placed.velocity = if stops then Body.rest body.variant else body.velocity := by
  let place := s.run.variant.bodyPosition (.spatial (robot.frame.position p))
  obtain ⟨rotation, hrotation⟩ : ∃ rotation,
      s.run.variant.bodyRotation (.spatial (robot.frame.euler angles)) = .ok rotation := by
    cases s.run.variant <;> exact ⟨_, rfl⟩
  let moved := body.place place (if turns then some rotation else none)
  refine ⟨if stops then moved.stop else moved, ?_, ?_, ?_, ?_, ?_⟩
  · have hplaced : s.run.variant.place (robot.frame.coords (.spatial p))
        (if turns then some (.spatial (robot.frame.euler angles)) else none) body = .ok moved := by
      cases turns with
      | false => rfl
      | true =>
        simp only [if_true, Variant.place, hrotation]
        rfl
    have hplace : s.placeRobot robot true (.spatial p) (.spatial angles) turns stops =
        .ok (if stops then moved.stop else moved,
          s.setBody robot.body (if stops then moved.stop else moved)) := by
      simp only [placeRobot, if_true, Frame.givenEuler_spatial, hb]
      change (do
        let placed ← s.run.variant.place _ _ body
        return (_, s.setBody robot.body (if stops then placed.stop else placed))) = _
      rw [hplaced]
      rfl
    simp only [step, hr, Coords.ofRow_toValue]
    change s.commit (do
      let q ← s.placeRobot robot true (.spatial p) (.spatial angles) turns stops
      return (Reply.body q.1, q.2)) = _
    rw [hplace]
    rfl
  · cases stops <;> rfl
  · rintro rfl
    cases stops <;> exact hrotation
  · rintro rfl
    cases stops <;> rfl
  · cases stops <;> rfl

/-- A new body is read in place of the old one, and every other one as before. -/
theorem poseOf_setBody (s : Session K) (name : String) (body : Body K) :
    (s.setBody name body).poseOf name = s.run.variant.pose body := by
  rw [poseOf, setBody, Table.get_set_self]
  rfl

theorem poseOf_setBody_of_ne (s : Session K) {name other : String} (body : Body K)
    (h : other ≠ name) : (s.setBody name body).poseOf other = s.poseOf other := by
  rw [poseOf, poseOf, setBody, Table.get_set_of_ne _ _ h]

end

/-- A robot that was placed at `p` by Euler angles, as it is read afterwards. -/
structure ReadBack (s t : Session ℝ) (robot : Robot ℝ) (p angles : Vec3 ℝ) (turns : Bool) :
    Prop where
  /-- If it turned, it is read as it was told to face. -/
  turned : turns = true → ∃ pose upright, t.robotPose robot = .ok (pose, upright) ∧
    (pose.rotation : Real.Angle) = angles.z ∧
    (upright = true ↔ s.run.variant = .planar ∨ 0.3 ≤ Real.cos angles.x * Real.cos angles.y)
  /-- Otherwise it is read as it was facing before. -/
  kept : turns = false → ∀ pose upright, s.robotPose robot = .ok (pose, upright) →
    t.robotPose robot = .ok (⟨pose.rotation, p.level⟩, upright)
  /-- A pose that is read has the place, and no other heading than that. -/
  read : ∀ pose upright, t.robotPose robot = .ok (pose, upright) → pose.position = p.level ∧
    (s.run.variant = .planar → upright = true) ∧
    (turns = false → s.facing robot = .ok (pose.rotation, upright))
  /-- Robots of its team show it in this pose wherever they know of it. -/
  shown : ∀ mate other, t.robots.get mate = .ok other → other.team.isFirst = robot.team.isFirst →
    ∀ own (i : ℕ) (entry : Numbered String), (other.listed own)[i]? = some entry →
      entry.body = robot.body →
      ∀ (w : Snapshot ℝ) model ball, (t.step (.look mate)).1 = .ok (.snapshot w model ball) →
        ∃ player : Player ℝ, (w.players own)[i]? = some player ∧
          t.robotPose robot = .ok (player.pose, player.upright)
  /-- Who could read its own pose and those of the others before can do so still. -/
  readable : ∀ mate other, t.robots.get mate = .ok other →
    (∃ w, s.snapshot other none = .ok w) → ∃ w, t.snapshot other none = .ok w

section

variable {s : Session ℝ} {robot : Robot ℝ} {body placed : Body ℝ} {p angles : Vec3 ℝ}

theorem robotPose_placed
    (hposition : placed.position = s.run.variant.bodyPosition (.spatial (robot.frame.position p))) :
    (s.setBody robot.body placed).robotPose robot = (do
      let (heading, upright) ← (s.setBody robot.body placed).facing robot
      return (⟨heading, p.level⟩, upright)) := by
  have hplace := s.run.variant.levelPosition_placed _ hposition
  rw [robotPose_of_place (s := s.setBody robot.body placed) (Table.get_set_self _ _ _) hplace,
    Frame.position_level, Frame.levelPosition_twice _ neg_neg]

theorem facing_placed_turned
    (hrotation : s.run.variant.bodyRotation (.spatial (robot.frame.euler angles)) =
      .ok placed.rotation)
    (level : s.run.variant = .volumetric → 0 < Real.cos angles.y) :
    ∃ heading upright, (s.setBody robot.body placed).facing robot = .ok (heading, upright) ∧
      (heading : Real.Angle) = angles.z ∧
      (upright = true ↔
        s.run.variant = .planar ∨ 0.3 ≤ Real.cos angles.x * Real.cos angles.y) := by
  obtain ⟨heading, upright, hfacing, hheading, hupright⟩ :=
    s.run.variant.facing_turned _ hrotation level
  -- the angle was taken into the host's frame, and its heading is taken back
  refine ⟨robot.frame.heading heading, upright, ?_, ?_, hupright⟩
  · rw [facing_eq (s := s.setBody robot.body placed) (Table.get_set_self _ _ _)]
    change (do
      let (heading, upright) ← s.run.variant.facing placed
      return (robot.frame.heading heading, upright)) = _
    rw [hfacing]
    rfl
  · rw [robot.frame.heading_congr hheading]
    exact robot.frame.heading_twice angles.z

theorem facing_placed_kept (hb : s.bodies.get robot.body = .ok body)
    (hrotation : placed.rotation = body.rotation) :
    (s.setBody robot.body placed).facing robot = s.facing robot := by
  rw [facing_eq (s := s.setBody robot.body placed) (Table.get_set_self _ _ _), facing_eq hb,
    ← Variant.facing_of_rotation _ hrotation]
  rfl

theorem robotPose_turned
    (hposition : placed.position = s.run.variant.bodyPosition (.spatial (robot.frame.position p)))
    (hrotation : s.run.variant.bodyRotation (.spatial (robot.frame.euler angles)) =
      .ok placed.rotation)
    (level : s.run.variant = .volumetric → 0 < Real.cos angles.y) :
    ∃ pose upright, (s.setBody robot.body placed).robotPose robot = .ok (pose, upright) ∧
      (pose.rotation : Real.Angle) = angles.z ∧
      (upright = true ↔
        s.run.variant = .planar ∨ 0.3 ≤ Real.cos angles.x * Real.cos angles.y) := by
  obtain ⟨heading, upright, hfacing, hheading, hupright⟩ :=
    facing_placed_turned (s := s) hrotation level
  refine ⟨⟨heading, p.level⟩, upright, ?_, hheading, hupright⟩
  rw [robotPose_placed hposition, hfacing]
  rfl

theorem robotPose_kept {pose : Pose ℝ} {upright : Bool} (hb : s.bodies.get robot.body = .ok body)
    (hposition : placed.position = s.run.variant.bodyPosition (.spatial (robot.frame.position p)))
    (hrotation : placed.rotation = body.rotation)
    (hbefore : s.robotPose robot = .ok (pose, upright)) :
    (s.setBody robot.body placed).robotPose robot = .ok (⟨pose.rotation, p.level⟩, upright) := by
  rw [robotPose_placed hposition, facing_placed_kept hb hrotation, facing_of_robotPose hbefore]
  rfl

theorem position_of_robotPose_placed {pose : Pose ℝ} {upright : Bool}
    (hposition : placed.position = s.run.variant.bodyPosition (.spatial (robot.frame.position p)))
    (hread : (s.setBody robot.body placed).robotPose robot = .ok (pose, upright)) :
    pose.position = p.level := by
  have hfacing := facing_of_robotPose hread
  rw [robotPose_placed hposition, hfacing] at hread
  have hsame := Except.ok.inj hread
  exact (congrArg (fun q : Pose ℝ × Bool => q.1.position) hsame).symm

/-- A new body of a robot disturbs no snapshot if its pose can be read as before. -/
theorem snapshot_answers_placed {other : Robot ℝ}
    (hread : (∃ q, s.robotPose robot = .ok q) →
      ∃ q, (s.setBody robot.body placed).robotPose robot = .ok q)
    (hw : ∃ w, s.snapshot other none = .ok w) :
    ∃ w, (s.setBody robot.body placed).snapshot other none = .ok w := by
  refine snapshot_answers_of_readable hw rfl fun name hname => ?_
  by_cases hn : name = robot.body
  · rw [hn] at hname ⊢
    exact robotPose_answers_iff.mp (hread (robotPose_answers_iff.mpr hname))
  · rwa [poseOf_setBody_of_ne _ _ hn]

/-- A pose in the common frame is the same for all robots of a team. -/
theorem shows_robotPose {t : Session ℝ} {other : Robot ℝ} {first : Bool} {entry : Numbered String}
    {player : Player ℝ} (hside : other.team.isFirst = robot.team.isFirst)
    (hentry : entry.body = robot.body) (h : t.Shows other.frame first entry player) :
    t.robotPose robot = .ok (player.pose, player.upright) := by
  obtain ⟨q, hq, hpose⟩ := h.pose
  have hframe : robot.frame = other.frame := by rw [Robot.frame, Robot.frame, hside]
  rw [robotPose_eq, ← hentry, hq, hframe, hpose]
  rfl

/-- Whoever looks shows a robot of its team in that robot's own pose. -/
theorem look_shows_robotPose {t : Session ℝ} {mate : String} {other : Robot ℝ} {own : Bool} {i : ℕ}
    {entry : Numbered String} {w : Snapshot ℝ} {model : Ball.Model ℝ} {ball : Option (Body ℝ)}
    (hother : t.robots.get mate = .ok other) (hside : other.team.isFirst = robot.team.isFirst)
    (hentry : (other.listed own)[i]? = some entry) (hbody : entry.body = robot.body)
    (hlook : (t.step (.look mate)).1 = .ok (.snapshot w model ball)) :
    ∃ player : Player ℝ, (w.players own)[i]? = some player ∧
      t.robotPose robot = .ok (player.pose, player.upright) := by
  obtain ⟨seen, after, ball, hseen, -, hreply⟩ := step_look_ok hother hlook
  cases hreply
  have hshown := look_shows (Prod.ext hseen rfl) own
  obtain ⟨player, hplayer, hshows⟩ := getElem?_of_forall₂ hshown hentry
  exact ⟨player, hplayer, shows_robotPose hside hbody hshows⟩

end

/-- Whatever a session has come to, a robot that is placed in the common frame is read back as it
was told: in its place, at its height in space, at the heading about the z-axis or the one before,
upright if it is tilted little or as before, and stopped or moving as before. Its team sees it
so. -/
theorem placed_robot_read_back {s : Session ℝ} (reached : s.Reachable) {name : String}
    {robot : Robot ℝ} (hr : s.robots.get name = .ok robot) (p angles : Vec3 ℝ) (turns stops : Bool)
    (level : turns = true → s.run.variant = .volumetric → 0 < Real.cos angles.y) :
    ∃ body placed : Body ℝ, s.bodies.get robot.body = .ok body ∧
      s.step (.placeRobot name ⟨true, p.toValue, stops⟩ angles.toValue turns) =
        (.ok (.body placed), s.setBody robot.body placed) ∧
      s.ReadBack (s.setBody robot.body placed) robot p angles turns ∧
      (s.run.variant = .volumetric →
        ∃ q, Variant.volumetric.position placed = .ok q ∧ q.z = p.z) ∧
      (placed.velocity = if stops then Body.rest body.variant else body.velocity) ∧
      (stops = true → placed.velocity =
        .list (List.replicate (if body.variant = .planar then 2 else 3) (.real 0))) := by
  obtain ⟨body, hb⟩ := reached.wired.robots name robot hr
  obtain ⟨placed, hstep, hposition, hturns, hkeeps, hvelocity⟩ :=
    step_placeRobot hr hb p angles turns stops
  refine ⟨body, placed, hb, hstep, ⟨?_, ?_, ?_, ?_, ?_⟩, ?_, hvelocity, ?_⟩
  · intro hturn
    exact robotPose_turned hposition (hturns hturn) (level hturn)
  · intro hkeep pose upright
    exact robotPose_kept hb hposition (hkeeps hkeep)
  · intro pose upright hread
    have hfacing := facing_of_robotPose hread
    refine ⟨position_of_robotPose_placed hposition hread, fun hv => ?_, fun hkeep => ?_⟩
    · exact facing_planar_upright (s := s.setBody robot.body placed) hv hfacing
    · rwa [facing_placed_kept hb (hkeeps hkeep)] at hfacing
  · intro mate other hother hside own i entry hentry hbody w model ball
    exact look_shows_robotPose hother hside hentry hbody
  · intro mate other hother
    refine snapshot_answers_placed fun hbefore => ?_
    cases turns with
    | true =>
      obtain ⟨pose, upright, hafter, -⟩ := robotPose_turned hposition (hturns rfl) (level rfl)
      exact ⟨_, hafter⟩
    | false =>
      obtain ⟨⟨pose, upright⟩, hbefore⟩ := hbefore
      exact ⟨_, robotPose_kept hb hposition (hkeeps rfl) hbefore⟩
  · intro hv
    rw [hv] at hposition
    exact ⟨_, Variant.position_placed _ _ hposition, Frame.position_height _ _⟩
  · rintro rfl
    exact hvelocity.trans (Body.rest_eq body.variant)

/-- A robot in space that is put on its head and turned to the left. -/
theorem placed_robot_read_back_overturned : ∃ robot placed,
    let s := (hall .volumetric).setRobot "a" robot
    (hall .volumetric).makeRobot "robot1" = .ok robot ∧
      s.step (.placeRobot "a" ⟨true, (⟨1000, 500, 300⟩ : Vec3 ℝ).toValue, true⟩
        (⟨Real.pi, 0, Real.pi / 2⟩ : Vec3 ℝ).toValue true) =
          (.ok (.body placed), s.setBody robot.body placed) ∧
      ∃ pose, (s.setBody robot.body placed).robotPose robot = .ok (pose, false) ∧
        pose.position = ⟨1000, 500⟩ ∧ (pose.rotation : Real.Angle) = (Real.pi / 2 : ℝ) := by
  obtain ⟨robot, hmade⟩ := hall_makeRobot .volumetric "robot1" (by simp)
  have reached := (hall_reachable .volumetric).makeRobot hmade "a"
  obtain ⟨body, placed, -, hstep, hread, -, -, -⟩ := placed_robot_read_back reached
    (Table.get_set_self _ _ _) ⟨1000, 500, 300⟩ ⟨Real.pi, 0, Real.pi / 2⟩ true true
    (fun _ _ => by simp)
  obtain ⟨pose, upright, hpose, hheading, hupright⟩ := hread.turned rfl
  obtain ⟨hposition, -, -⟩ := hread.read pose upright hpose
  have hlies : upright = false := by
    rw [← Bool.not_eq_true, hupright]
    rintro (hplanar | htilt)
    · cases hplanar
    · norm_num [Exact.literal] at htilt
  subst hlies
  exact ⟨robot, placed, hmade, hstep, pose, hpose, hposition, hheading⟩

end Session
end RobotSoccer
