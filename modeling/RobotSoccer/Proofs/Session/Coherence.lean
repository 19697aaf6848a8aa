import Mathlib
import RobotSoccer.Proofs.Body.Twin
import RobotSoccer.Proofs.Session.Opposed
import RobotSoccer.Proofs.Session.Sighting

/-! One change of frame for all that a robot reports: positions, headings, poses and Euler angles go
through the same map, the odometry of a robot's own pose leads back to the pose that the host has, and
the ball of a snapshot is the host's ball. -/
namespace RobotSoccer

/-- The changes of a frame are one map. Twice it restores all but headings, and a pose, Euler angles
and a vector in space are changed part by part. -/
structure Frame.Coheres (f : Frame) (K : Type) [Scalar K] : Prop where
  coords_twice : ∀ v : Coords K, f.coords (f.coords v) = v
  pose_twice : ∀ p : Pose K, (f.pose (f.pose p)).position = p.position
  euler_twice : ∀ v : Vec3 K, (f.euler (f.euler v)).x = v.x ∧ (f.euler (f.euler v)).y = v.y
  heading : ∀ a : K, f.givenHeading (.real a) = .ok (.real (f.heading a))
  pose : ∀ p : Pose K, f.givenPose p.given = .ok (f.pose p).given ∧
    (f.pose p).rotation = f.heading p.rotation ∧
    f.coords (.flat p.position) = .flat (f.pose p).position
  euler : ∀ v : Vec3 K, f.givenEuler (.spatial v) = .ok (.spatial (f.euler v)) ∧
    (f.euler v).z = f.heading v.z
  level : ∀ v : Vec3 K, f.coords (.spatial v) = .spatial (f.position v) ∧
    f.coords (.flat v.level) = .flat (f.position v).level ∧ (f.position v).z = v.z
  apply : (∀ v : Coords K, f.apply (.coords v) = .ok (.coords (f.coords v))) ∧
    ∀ p : Pose K, f.apply (.pose p.given) = .ok (.pose (f.pose p).given)
  /-- The frame of the second team changes nothing. -/
  unturned : f.turned = false → (∀ q : Quantity K, f.apply q = .ok q) ∧
    (∀ a : Value K, f.givenHeading a = .ok a) ∧ ∀ v : Coords K, f.givenEuler v = .ok v

theorem Frame.coheres {K : Type} [Scalar K] (negTwice : ∀ x : K, - -x = x) (f : Frame) :
    f.Coheres K where
  coords_twice := f.coords_twice negTwice
  pose_twice p := by
    rw [pose_eq, pose_eq]
    exact f.levelPosition_twice negTwice p.position
  euler_twice v := ⟨rfl, rfl⟩
  heading := f.givenHeading_real
  pose p := by
    rw [givenPose_given, pose_eq]
    exact ⟨rfl, rfl, rfl⟩
  euler v := ⟨f.givenEuler_spatial v, rfl⟩
  level v := by
    rw [position_level]
    exact ⟨rfl, rfl, f.position_height v⟩
  apply := f.apply_eq
  unturned h := by
    refine ⟨unturned h, fun a => ?_, fun v => ?_⟩
    · rw [givenHeading, h]
      rfl
    · rw [givenEuler, h]
      rfl

/-- In exact arithmetic the changes of a frame restore headings too, up to full turns, and they
commute with turns; on doubles they commute with turns up to the signs of zeros. -/
structure Frame.KeepsTurns (f : Frame) : Prop where
  heading_twice : ∀ a : ℝ, ((f.heading (f.heading a) : ℝ) : Real.Angle) = a
  pose_twice : ∀ p : Pose ℝ, ((f.pose (f.pose p)).rotation : Real.Angle) = p.rotation
  euler_twice : ∀ v : Vec3 ℝ, ((f.euler (f.euler v)).z : Real.Angle) = v.z
  rotate : ∀ (v : Vec2 ℝ) (angle : ℝ),
    (f.levelPosition v).rotate angle = f.levelPosition (v.rotate angle)
  rotate_rounded : ∀ (v : Vec2 Double) (angle : Double),
    Double.Alike ((f.levelPosition v).rotate angle).x (f.levelPosition (v.rotate angle)).x ∧
      Double.Alike ((f.levelPosition v).rotate angle).y (f.levelPosition (v.rotate angle)).y

theorem Frame.keepsTurns (f : Frame) : f.KeepsTurns where
  heading_twice := f.heading_twice
  pose_twice p := by
    rw [pose_eq, pose_eq]
    exact f.heading_twice p.rotation
  euler_twice v := f.heading_twice v.z
  rotate := f.rotate_levelPosition
  rotate_rounded := f.rotate_levelPosition_rounded

/-- The two readings of a ball agree over the ground. -/
theorem Variant.levelPosition_of_ballPosition {K : Type} [Scalar K] {variant : Variant}
    {body : Body K} {place : Vec3 K} (h : variant.ballPosition body = .ok place) :
    variant.levelPosition body = .ok place.level := by
  obtain ⟨position, hposition, h⟩ := ok_of_bind h
  rw [levelPosition, hposition]
  cases variant with
  | volumetric =>
    cases h
    rfl
  | planar =>
    cases h
    rfl

namespace Session

variable {K : Type} [Scalar K] {s t : Session K} {name : String} {robot : Robot K}

/-- The odometry of a robot's own pose is the pose that the host has, as far as `same` tells. A robot
that the host cannot read cannot be read in the common frame either. -/
def OdometryReadsHost (s : Session K) (name : String) (robot : Robot K)
    (same : Pose K → Pose K → Prop) : Prop :=
  match s.poseOf robot.body with
  | .error fault => s.step (.robotPose name) = (.error fault, s)
  | .ok (host, upright) => ∃ p odometry : Pose K,
    s.step (.robotPose name) = (.ok (.pose p upright), s) ∧
      s.step (.odometry name [.real p.rotation, p.position.toValue]) =
        (.ok (.givenPose odometry.given), s) ∧
      same odometry host

/-- A snapshot shows the ball over the place that the host has for it, before the look and after. -/
def ShowsHostBall (s : Session K) (name : String) (robot : Robot K) : Prop :=
  ∀ w model ball, (s.step (.look name)).1 = .ok (.snapshot w model ball) →
    ∃ place, s.step (.hostBall name) = (.ok (.level place), s) ∧
      ((s.step (.look name)).2.step (.hostBall name)).1 = .ok (.level place) ∧
      w.ball.map (fun b => b.position.level) = place.map robot.frame.levelPosition

theorem step_robotPose (hr : s.robots.get name = .ok robot) :
    s.step (.robotPose name) = s.answer (do
      let (pose, upright) ← s.poseOf robot.body
      return .pose (robot.frame.pose pose) upright) := by
  simp only [step, hr]
  change s.answer (do
    let (pose, upright) ← s.robotPose robot
    return .pose pose upright) = _
  rw [robotPose_eq, bind_assoc]
  rfl

theorem step_odometry (hr : s.robots.get name = .ok robot) (p : Pose K) :
    s.step (.odometry name [.real p.rotation, p.position.toValue]) =
      (.ok (.givenPose (robot.frame.pose p).given), s) := by
  simp only [step, hr]
  change s.answer (do return .givenPose (← robot.frame.givenPose p.given)) = _
  rw [Frame.givenPose_given]
  rfl

theorem odometry_reads_host {same : Pose K → Pose K → Prop} (hr : s.robots.get name = .ok robot)
    (hsame : ∀ p : Pose K, same (robot.frame.pose (robot.frame.pose p)) p) :
    s.OdometryReadsHost name robot same := by
  have hstep := step_robotPose hr
  unfold OdometryReadsHost
  rcases hpose : s.poseOf robot.body with fault | ⟨host, upright⟩
  · rw [hpose] at hstep
    exact hstep
  · rw [hpose] at hstep
    exact ⟨robot.frame.pose host, robot.frame.pose (robot.frame.pose host), hstep,
      step_odometry hr _, hsame host⟩

theorem step_hostBall (hr : s.robots.get name = .ok robot) :
    s.step (.hostBall name) = s.answer (do return .level (← s.hostBall)) := by
  simp only [step, hr]
  rfl

theorem lookAtBall_position {ball : String} {body : Body K} {place : Vec3 K} {seen : BallSighting K}
    (hp : s.run.variant.ballPosition body = .ok place)
    (h : s.lookAtBall name robot ball body = (.ok seen, t)) :
    seen.position = robot.frame.position place := by
  rw [lookAtBall_seen hp rfl] at h
  split at h
  · cases h
  · split at h
    · cases h
    · cases h
      rfl

/-- What is seen of the ball lies over the place that the host has for it. -/
theorem sighting_level {seen : Option (BallSighting K)}
    (h : s.sighting name robot = (.ok seen, t)) : ∃ place, s.hostBall = .ok place ∧
      seen.map (fun b => b.position.level) = place.map robot.frame.levelPosition := by
  unfold sighting at h
  rcases hb : s.ballBody? with fault | _ | ⟨ball, body⟩ <;> rw [hb] at h
  · cases h
  · cases h
    refine ⟨none, ?_, rfl⟩
    rw [hostBall, hb]
    rfl
  · rcases hl : s.lookAtBall name robot ball body with ⟨fault | state, u⟩ <;>
      simp only [hl] at h <;> cases h
    cases hp : s.run.variant.ballPosition body with
    | error fault =>
      simp only [lookAtBall, hp] at hl
      cases hl
    | ok place =>
      refine ⟨some place.level, ?_, ?_⟩
      · rw [hostBall, hb]
        change (do return some (← s.run.variant.levelPosition body)) = _
        rw [Variant.levelPosition_of_ballPosition hp]
        rfl
      · simp only [Option.map_some, lookAtBall_position hp hl, Frame.position_level]

theorem shows_host_ball (hr : s.robots.get name = .ok robot) : s.ShowsHostBall name robot := by
  intro w model ball hlook
  obtain ⟨v, after, c, hv, hafter, hreply⟩ := step_look_ok hr hlook
  cases hreply
  have hnext := step_look_snd hr
  rcases hl : s.look name robot with ⟨x, t⟩
  rw [hl] at hv hafter hnext
  cases hv
  obtain ⟨seen, hs, hw⟩ := sighting_of_look hl
  obtain ⟨place, hplace, hlevel⟩ := sighting_level hs
  refine ⟨place, ?_, ?_, ?_⟩
  · rw [step_hostBall hr, hplace]
    rfl
  · rw [hnext, step_hostBall hafter, (sighting_scene_of_eq hs).hostBall, hplace]
    rfl
  · rw [(snapshot_shows hw).1, hlevel]

/-- In whatever state a session is: the changes of a frame are one map that is its own inverse, the
odometry of a robot's own pose leads back to the host's pose, its position exactly and its heading up
to full turns, and each snapshot shows the ball over the place that the host has for it. -/
theorem frame_changes_cohere :
    (∀ f : Frame, f.Coheres Double ∧ f.Coheres ℝ ∧ f.KeepsTurns) ∧
    (∀ (s : Session Double) name robot, s.robots.get name = .ok robot →
      s.OdometryReadsHost name robot (fun p q => p.position = q.position) ∧
        s.ShowsHostBall name robot) ∧
    ∀ (s : Session ℝ) name robot, s.robots.get name = .ok robot →
      s.OdometryReadsHost name robot Pose.Same ∧ s.ShowsHostBall name robot := by
  refine ⟨fun f => ⟨f.coheres Double.neg_twice, f.coheres neg_neg, f.keepsTurns⟩, ?_, ?_⟩
  · intro s name robot hr
    refine ⟨odometry_reads_host hr fun p => ?_, shows_host_ball hr⟩
    exact (robot.frame.coheres Double.neg_twice).pose_twice p
  · intro s name robot hr
    refine ⟨odometry_reads_host hr fun p => ⟨?_, ?_⟩, shows_host_ball hr⟩
    · exact (robot.frame.coheres neg_neg).pose_twice p
    · exact robot.frame.keepsTurns.pose_twice p

/-- A robot of the first team, whose frame is turned, and the ball on the pitch. -/
theorem frame_changes_cohere_pitch : ∃ robot w model ball,
    let s := pitch.setRobot "a" robot
    pitch.makeRobot "robot1" = .ok robot ∧ robot.frame.turned = true ∧
      s.OdometryReadsHost "a" robot (fun p q => p.position = q.position) ∧
      (s.step (.look "a")).1 = .ok (.snapshot w model ball) ∧
      ∃ place, s.step (.hostBall "a") = (.ok (.level place), s) ∧
        w.ball.map (fun b => b.position.level) = place.map robot.frame.levelPosition := by
  have looks : (pitch.makeRobot "robot1").toOption.map (fun r =>
      (r.team.isFirst, ((pitch.setRobot "a" r).step (.look "a")).1.isOk)) = some (true, true) := by
    decide +kernel
  cases hmade : pitch.makeRobot "robot1" with
  | error fault =>
    rw [hmade] at looks
    cases looks
  | ok robot =>
    rw [hmade] at looks
    obtain ⟨first, answers⟩ := Prod.mk.inj (Option.some.inj looks)
    have hr : (pitch.setRobot "a" robot).robots.get "a" = .ok robot := Table.get_set_self _ _ _
    obtain ⟨reply, hreply⟩ := answers_of_isOk answers
    obtain ⟨w, after, ball, -, -, rfl⟩ := step_look_ok hr hreply
    obtain ⟨-, coheres, -⟩ := frame_changes_cohere
    obtain ⟨odometry, shows⟩ := coheres _ _ _ hr
    obtain ⟨place, hplace, -, hlevel⟩ := shows w _ _ hreply
    exact ⟨robot, w, _, ball, rfl, first, odometry, hreply, place, hplace, hlevel⟩

end Session

end RobotSoccer
