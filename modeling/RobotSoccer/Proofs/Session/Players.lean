import RobotSoccer.Proofs.Session.Look
import RobotSoccer.Proofs.Team.Split

/-! Whom a snapshot shows: the robots of the observer's roster, each in its place. -/
namespace RobotSoccer

variable {K : Type}

/-- The robots of the own team, or those of the other one. -/
def Robot.listed (r : Robot K) (own : Bool) : List (Numbered String) :=
  r.roster.team (own == r.team.isFirst)

theorem Robot.team_eq_listed (r : Robot K) (first : Bool) :
    r.roster.team first = r.listed (first == r.team.isFirst) := by
  rw [Robot.listed, Bool.beq_self_right]

def Snapshot.players (w : Snapshot K) : (own : Bool) → List (Player K)
  | true => w.ownTeam
  | false => w.opponents

variable [Scalar K] {s : Session K} {robot : Robot K} {w : Snapshot K}
  {sighting : Option (BallSighting K)}

namespace Session

/-- The number that a robot of a team is shown with. -/
def shownNumber (s : Session K) (first : Bool) (number : Nat) : Except Fault (Value K) :=
  if first then .ok (.int number) else (Value.int number).sub s.run.robotsPerTeam

/-- A player that stands for an entry of a roster. -/
structure Shows (s : Session K) (frame : Frame) (first : Bool) (entry : Numbered String)
    (p : Player K) : Prop where
  pose : ∃ q, s.poseOf entry.body = .ok (q, p.upright) ∧ p.pose = frame.pose q
  number : s.shownNumber first entry.number = .ok p.number

theorem player_shows (first : Bool) {entry : Numbered String} {p : Player K}
    (h : s.player robot (if first then none else some s.run.robotsPerTeam) entry = .ok p) :
    s.Shows robot.frame first entry p := by
  rw [player_eq] at h
  obtain ⟨⟨q, upright⟩, hq, h⟩ := ok_of_bind h
  obtain ⟨number, hn, h⟩ := ok_of_bind h
  cases h
  refine ⟨⟨q, hq, rfl⟩, ?_⟩
  cases first <;> exact hn

/-- A snapshot shows each entry of the robot's roster in its place, and no other player. -/
theorem snapshot_shows (h : s.snapshot robot sighting = .ok w) :
    w.ball = sighting ∧ ∀ own, List.Forall₂ (s.Shows robot.frame (own == robot.team.isFirst))
      (robot.listed own) (w.players own) := by
  obtain ⟨⟨ownPose, upright⟩, -, h⟩ := ok_of_bind h
  obtain ⟨first, hfirst, h⟩ := ok_of_bind h
  obtain ⟨second, hsecond, h⟩ := ok_of_bind h
  have shown : ∀ isFirst, List.Forall₂ (s.Shows robot.frame isFirst) (robot.roster.team isFirst)
      (if isFirst then first else second) := by
    intro isFirst
    cases isFirst with
    | true => exact (forall₂_of_mapM_ok hfirst).imp fun _ _ => player_shows true
    | false => exact (forall₂_of_mapM_ok hsecond).imp fun _ _ => player_shows false
  cases hteam : robot.team.isFirst with
  | true =>
    simp only [hteam] at h
    cases h
    refine ⟨rfl, fun own => ?_⟩
    rw [Robot.listed, hteam]
    cases own
    · exact shown false
    · exact shown true
  | false =>
    simp only [hteam] at h
    cases h
    refine ⟨rfl, fun own => ?_⟩
    rw [Robot.listed, hteam]
    cases own
    · exact shown true
    · exact shown false

/-- The roster of a robot that was made is split by the names at that time. -/
theorem makeRobot_split {body : String} (h : s.makeRobot body = .ok robot) :
    robot.roster.Split s.nameOf s.run.robotsPerTeam := by
  obtain ⟨b, -, h⟩ := ok_of_bind h
  obtain ⟨number, -, h⟩ := ok_of_bind h
  obtain ⟨team, -, h⟩ := ok_of_bind h
  obtain ⟨roster, hroster, h⟩ := ok_of_bind h
  cases h
  exact Roster.split_ofScene hroster

theorem makeRobot_fresh {body : String} (h : s.makeRobot body = .ok robot) :
    robot.ball = .fresh := by
  obtain ⟨b, -, h⟩ := ok_of_bind h
  obtain ⟨number, -, h⟩ := ok_of_bind h
  obtain ⟨team, -, h⟩ := ok_of_bind h
  obtain ⟨roster, -, h⟩ := ok_of_bind h
  cases h
  rfl

end Session
end RobotSoccer
