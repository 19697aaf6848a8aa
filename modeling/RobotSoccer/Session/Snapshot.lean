import RobotSoccer.Session.State

/-! What a robot sees: itself, the other players and the ball, in the common frame. A look at the
ball feeds the robot's model of it, and on a plane bends the ball's path. -/
namespace RobotSoccer

/-- A player as another one sees it, with its number within its team. -/
structure Player (K : Type) where
  number : Value K
  pose : Pose K
  upright : Bool

structure BallSighting (K : Type) where
  /-- In mm. -/
  position : Vec3 K
  /-- In mm/s. -/
  velocity : Vec3 K

structure Snapshot (K : Type) where
  ownPose : Pose K
  ownTeam : List (Player K)
  opponents : List (Player K)
  ball : Option (BallSighting K)

namespace Session

variable {K : Type} [Scalar K]

/-- The pose of a robot in the common frame and whether it stands upright. -/
def robotPose (s : Session K) (robot : Robot K) : Except Fault (Pose K × Bool) := do
  let (pose, upright) ← s.run.variant.pose (← s.bodies.get robot.body)
  return (robot.frame.pose pose, upright)

/-- Another robot as one sees it, its number shifted down by `shift` if there is one. -/
def player (s : Session K) (robot : Robot K) (shift : Option (Value K))
    (other : Numbered String) : Except Fault (Player K) := do
  let (pose, upright) ← s.run.variant.pose (← s.bodies.get other.body)
  let number ← shift.elim (.ok (.int other.number)) (Value.int other.number).sub
  return ⟨number, robot.frame.pose pose, upright⟩

/-- What a robot sees, given what it has seen of the ball. -/
def snapshot (s : Session K) (robot : Robot K) (ball : Option (BallSighting K)) :
    Except Fault (Snapshot K) := do
  let (ownPose, _) ← s.robotPose robot
  let first ← robot.roster.firstTeam.mapM (s.player robot none)
  let second ← robot.roster.secondTeam.mapM (s.player robot (some s.run.robotsPerTeam))
  let (ownTeam, opponents) := ownAndOpposing robot.team.isFirst first second
  return ⟨ownPose, ownTeam, opponents, ball⟩

/-- Bends the path of the ball by the robot's curve angle, unless its last look kept the
velocity. -/
def bendPath (s : Session K) (ball : String) (model : Ball.Model K) : Except Fault (Session K) := do
  if model.lastElapsed.isNone then return s
  else
    let body ← s.bodies.get ball
    return s.setBody ball (← s.run.variant.bendPath (.real model.curveAngle) body)

/-- A robot's look at a ball. Its model is updated even if the look fails afterwards. -/
def lookAtBall (s : Session K) (name : String) (robot : Robot K) (ball : String) (body : Body K) :
    Except Fault (BallSighting K) × Session K :=
  match s.run.variant.ballPosition body with
  | .error fault => (.error fault, s)
  | .ok seen =>
    let position := robot.frame.position seen
    let update := robot.ball.update s.generator position s.clock
    let updated :=
      { s.setRobot name { robot with ball := update.model } with generator := update.generator }
    match update.outcome with
    | .error fault => (.error fault, updated)
    | .ok velocity =>
      match updated.bendPath ball update.model with
      | .error fault => (.error fault, updated)
      | .ok curved => (.ok ⟨position, velocity⟩, curved)

/-- A robot's look at the whole world, the ball first. -/
def look (s : Session K) (name : String) (robot : Robot K) :
    Except Fault (Snapshot K) × Session K :=
  match s.ballBody? with
  | .error fault => (.error fault, s)
  | .ok none => (s.snapshot robot none, s)
  | .ok (some (ball, body)) =>
    match s.lookAtBall name robot ball body with
    | (.error fault, s) => (.error fault, s)
    | (.ok state, s) => (s.snapshot robot (some state), s)

end Session
end RobotSoccer
