import RobotSoccer.Proofs.Session.Players

/-! A look in two parts: what is seen of the ball comes first, and then each robot is read where it
stands. The second part has an answer whenever these robots can be read. -/
namespace RobotSoccer.Session

variable {K : Type} [Scalar K] {s t : Session K} {robot : Robot K} {name : String}

/-- What a robot sees of the ball, if there is one, and the session afterwards. -/
def sighting (s : Session K) (name : String) (robot : Robot K) :
    Except Fault (Option (BallSighting K)) × Session K :=
  match s.ballBody? with
  | .error fault => (.error fault, s)
  | .ok none => (.ok none, s)
  | .ok (some (ball, body)) =>
    match s.lookAtBall name robot ball body with
    | (.error fault, t) => (.error fault, t)
    | (.ok seen, t) => (.ok (some seen), t)

theorem look_eq (s : Session K) (name : String) (robot : Robot K) : s.look name robot =
    match s.sighting name robot with
    | (.error fault, t) => (.error fault, t)
    | (.ok seen, t) => (t.snapshot robot seen, t) := by
  unfold look sighting
  rcases s.ballBody? with fault | _ | ⟨ball, body⟩
  · rfl
  · rfl
  · rcases h : s.lookAtBall name robot ball body with ⟨fault | seen, t⟩ <;> simp only [h]

theorem look_of_sighting {seen : Option (BallSighting K)}
    (h : s.sighting name robot = (.ok seen, t)) :
    s.look name robot = (t.snapshot robot seen, t) := by
  rw [look_eq, h]

theorem sighting_of_look {w : Snapshot K} (h : s.look name robot = (.ok w, t)) :
    ∃ seen, s.sighting name robot = (.ok seen, t) ∧ t.snapshot robot seen = .ok w := by
  rw [look_eq] at h
  rcases hs : s.sighting name robot with ⟨fault | seen, u⟩
  · rw [hs] at h
    cases h
  · rw [hs] at h
    obtain ⟨hw, rfl⟩ := Prod.mk.inj h
    exact ⟨seen, rfl, hw⟩

/-- Whatever becomes of it, a look at the ball leaves the scene as it is. -/
theorem sighting_scene (s : Session K) (name : String) (robot : Robot K) :
    s.SameScene (s.sighting name robot).2 := by
  have same : s.SameScene s := .of_same rfl rfl rfl
  unfold sighting
  rcases s.ballBody? with fault | _ | ⟨ball, body⟩
  · exact same
  · exact same
  · have looked : s.SameScene (s.lookAtBall name robot ball body).2 := by
      cases hp : s.run.variant.ballPosition body with
      | error fault => simpa only [lookAtBall, hp] using same
      | ok seen =>
        rw [lookAtBall_seen hp rfl]
        split
        · exact .of_same rfl rfl rfl
        · split
          · exact .of_same rfl rfl rfl
          · rename_i bent
            obtain ⟨hscene, -, -⟩ := bendPath_spec bent
            exact ⟨hscene.run, hscene.clock, hscene.bodies⟩
    rcases hl : s.lookAtBall name robot ball body with ⟨fault | seen, t⟩ <;>
      simpa only [hl] using looked

theorem sighting_scene_of_eq {x : Except Fault (Option (BallSighting K))}
    (h : s.sighting name robot = (x, t)) : s.SameScene t := by
  have := s.sighting_scene name robot
  rwa [h] at this

theorem snapshot_ownPose {seen : Option (BallSighting K)} {w : Snapshot K}
    (h : s.snapshot robot seen = .ok w) :
    ∃ upright, s.robotPose robot = .ok (w.ownPose, upright) := by
  obtain ⟨⟨ownPose, upright⟩, hown, h⟩ := ok_of_bind h
  obtain ⟨first, -, h⟩ := ok_of_bind h
  obtain ⟨second, -, h⟩ := ok_of_bind h
  cases h
  exact ⟨upright, hown⟩

/-- A look that answers shows the robot's own pose as it is. -/
theorem look_ownPose {w : Snapshot K} (h : s.look name robot = (.ok w, t)) :
    ∃ upright, s.robotPose robot = .ok (w.ownPose, upright) := by
  obtain ⟨seen, hs, hw⟩ := sighting_of_look h
  obtain ⟨upright, hown⟩ := snapshot_ownPose hw
  rw [robotPose_eq, (sighting_scene_of_eq hs).poseOf, ← robotPose_eq] at hown
  exact ⟨upright, hown⟩

/-- A look that answers shows each robot as it stands. -/
theorem look_shows {w : Snapshot K} (h : s.look name robot = (.ok w, t)) (own : Bool) :
    List.Forall₂ (s.Shows robot.frame (own == robot.team.isFirst)) (robot.listed own)
      (w.players own) := by
  obtain ⟨seen, hs, hw⟩ := sighting_of_look h
  have same := sighting_scene_of_eq hs
  refine ((snapshot_shows hw).2 own).imp fun entry p hp => ⟨?_, ?_⟩
  · rw [← same.poseOf]
    exact hp.pose
  · rw [shownNumber, ← same.run]
    exact hp.number

/-- A snapshot has an answer just if the robot, and each robot that it knows of, can be read. -/
theorem snapshot_answers_iff {seen : Option (BallSighting K)} :
    (∃ w, s.snapshot robot seen = .ok w) ↔ (∃ p, s.poseOf robot.body = .ok p) ∧
      ∀ first, ∀ entry ∈ robot.roster.team first, (∃ p, s.poseOf entry.body = .ok p) ∧
        ∃ number, s.shownNumber first entry.number = .ok number := by
  constructor
  · rintro ⟨w, hw⟩
    refine ⟨?_, fun first entry hentry => ?_⟩
    · obtain ⟨own, hown, -⟩ := ok_of_bind hw
      rw [robotPose_eq] at hown
      obtain ⟨p, hp, -⟩ := ok_of_bind hown
      exact ⟨p, hp⟩
    · have hshown := (snapshot_shows hw).2 (first == robot.team.isFirst)
      rw [← Robot.team_eq_listed, Bool.beq_self_right] at hshown
      obtain ⟨p, -, hp⟩ := exists_of_forall₂ hshown hentry
      obtain ⟨q, hq, -⟩ := hp.pose
      exact ⟨⟨_, hq⟩, _, hp.number⟩
  · rintro ⟨⟨⟨q, upright⟩, hq⟩, hroster⟩
    have players : ∀ first, ∃ ps, (robot.roster.team first).mapM
        (s.player robot (if first then none else some s.run.robotsPerTeam)) = .ok ps := by
      intro first
      refine mapM_answers fun entry hentry => ?_
      obtain ⟨⟨⟨p, upright⟩, hp⟩, number, hn⟩ := hroster first entry hentry
      refine ⟨⟨number, robot.frame.pose p, upright⟩, ?_⟩
      rw [player_eq, hp]
      cases first with
      | true =>
        cases hn
        rfl
      | false =>
        change (Value.int entry.number).sub s.run.robotsPerTeam = _ at hn
        simp [hn, bind, Except.bind, pure, Except.pure]
    obtain ⟨first, hfirst⟩ := players true
    obtain ⟨second, hsecond⟩ := players false
    have hfirst : robot.roster.firstTeam.mapM (s.player robot none) = .ok first := hfirst
    have hsecond : robot.roster.secondTeam.mapM
        (s.player robot (some s.run.robotsPerTeam)) = .ok second := hsecond
    simp [snapshot, robotPose_eq, hq, hfirst, hsecond, bind, Except.bind, pure, Except.pure]

/-- A snapshot keeps its answer while each robot can be read that could be before. -/
theorem snapshot_answers_of_readable {seen seen' : Option (BallSighting K)}
    (h : ∃ w, s.snapshot robot seen = .ok w) (hrun : t.run = s.run)
    (hread : ∀ body, (∃ q, s.poseOf body = .ok q) → ∃ q, t.poseOf body = .ok q) :
    ∃ w, t.snapshot robot seen' = .ok w := by
  rw [snapshot_answers_iff] at h ⊢
  refine ⟨hread _ h.1, fun first entry hentry => ?_⟩
  obtain ⟨hpose, hnumber⟩ := h.2 first entry hentry
  refine ⟨hread _ hpose, ?_⟩
  rwa [shownNumber, hrun]

end RobotSoccer.Session
