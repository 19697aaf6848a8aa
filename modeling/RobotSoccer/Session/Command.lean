import RobotSoccer.Session.Snapshot

/-! Sessions as sequences of commands. A command that fails does not end the session; what it
changed before stays changed. -/
namespace RobotSoccer

/-- What can be asked of one body. -/
inductive BodyRequest (K : Type) where
  | levelPosition
  | position
  | pose
  | ballPosition
  | place (position : Value K) (angles : Option (Value K))
  | stop
  | bendPath (angle : Value K)
  | slowBall (friction step : Value K)

/-- Where a robot or the ball is to be placed, in the robot's own frame or in the common one. -/
structure Placement (K : Type) where
  inCommonFrame : Bool
  position : Value K
  /-- Whether all motion is stopped. -/
  stops : Bool

inductive Command (K : Type) where
  | makeRobot (robot : String) (body : Option String)
  | setBall (body : String)
  | tick (time : Value K)
  /-- The host overwrites fields of a body. -/
  | host (body : String) (name position rotation velocity : Option (Value K))
  | look (robot : String)
  | robotPose (robot : String)
  | odometry (robot : String) (pose : List (Value K))
  | hostBall (robot : String)
  | model (robot : String)
  | body (body : String)
  | placeRobot (robot : String) (placement : Placement K) (angles : Value K) (turns : Bool)
  | placeBall (robot : String) (placement : Placement K)
  /-- Slows the ball down over one step, by the run's friction if none is given. -/
  | slowBall (robot : String) (friction : Option (Value K))
  | inFirstTeam (body : String) (robotsPerTeam : Value K)
  | numberOf (body : String)
  | addMember (group : String) (body : String)
  | onBody (body : String) (request : BodyRequest K)

inductive Reply (K : Type) where
  | nothing
  | value (v : Value K)
  | flag (b : Bool)
  | level (v : Option (Vec2 K))
  | spatial (v : Vec3 K)
  | pose (p : Pose K) (upright : Bool)
  | givenPose (p : GivenPose K)
  | robot (team : TeamMember K) (relative : Value K) (model : Ball.Model K)
  | model (m : Ball.Model K)
  | body (b : Body K)
  | snapshot (w : Snapshot K) (model : Ball.Model K) (ball : Option (Body K))
  | ball (body : Option (Body K)) (model : Ball.Model K)

variable {K : Type} [Scalar K]

namespace Session

/-- A command's changes, or none if it fails. -/
def commit {α : Type} (s : Session K) : Except Fault (α × Session K) → Except Fault α × Session K
  | .ok (reply, next) => (.ok reply, next)
  | .error fault => (.error fault, s)

/-- The odometry pose: a robot of the first team faces the opposing goal from its own half. -/
def odometry (robot : Robot K) (pose : GivenPose K) : Except Fault (GivenPose K) :=
  robot.frame.givenPose pose

/-- Places a robot by Euler angles; unless it `turns` it keeps its rotation. -/
def placeRobot (s : Session K) (robot : Robot K) (inCommonFrame : Bool)
    (position angles : Coords K) (turns stops : Bool) : Except Fault (Body K × Session K) := do
  let frame : Frame := if inCommonFrame then robot.frame else ⟨false⟩
  let position := frame.coords position
  let angles ← frame.givenEuler angles
  let body ← s.bodies.get robot.body
  let placed ← s.run.variant.place position (if turns then some angles else none) body
  let placed := if stops then placed.stop else placed
  return (placed, s.setBody robot.body placed)

/-- Places the ball, if there is one. A robot that stops the ball forgets what it knew about it. -/
def placeBall (s : Session K) (name : String) (robot : Robot K) (inCommonFrame : Bool)
    (position : Coords K) (stops : Bool) : Except Fault (Session K) := do
  let frame : Frame := if inCommonFrame then robot.frame else ⟨false⟩
  match ← s.ballBody? with
  | none => return s
  | some (ball, body) =>
    let placed ← s.run.variant.place (frame.coords position) none body
    if stops then
      return (s.setBody ball placed.stop).setRobot name { robot with ball := .fresh }
    else return s.setBody ball placed

/-- Slows the ball down over one step, if there is one. -/
def slowBall (s : Session K) (friction : Option (Value K)) : Except Fault (Session K) := do
  match ← s.ballBody? with
  | none => return s
  | some (ball, body) =>
    let friction := friction.getD s.run.ballFriction
    return s.setBody ball (← s.run.variant.slowBall friction s.run.stepLength body)

/-- The place of the ball as the host has it, on the ground plane. -/
def hostBall (s : Session K) : Except Fault (Option (Vec2 K)) := do
  match ← s.ballBody? with
  | none => return none
  | some (_, body) => return some (← s.run.variant.levelPosition body)

/-- The ball and what a robot knows about it. -/
def ballReply (s : Session K) (robot : String) : Except Fault (Reply K) := do
  return .ball ((← s.ballBody?).map Prod.snd) (← s.robots.get robot).ball

/-- A look, with the robot's model and the ball after it. -/
def lookReply (s : Session K) (name : String) (robot : Robot K) :
    Except Fault (Reply K) × Session K :=
  match s.look name robot with
  | (.error fault, s) => (.error fault, s)
  | (.ok snapshot, s) =>
    (do return .snapshot snapshot (← s.robots.get name).ball ((← s.ballBody?).map Prod.snd), s)

def robotReply (robot : Robot K) : Except Fault (Reply K) := do
  return .robot robot.team (← robot.team.relativeNumber) robot.ball

/-- The reply for a body, and the body afterwards. -/
def bodyReply (variant : Variant) (body : Body K) :
    BodyRequest K → Except Fault (Reply K × Body K)
  | .levelPosition => do return (.level (some (← variant.levelPosition body)), body)
  | .position => do return (.spatial (← variant.position body), body)
  | .ballPosition => do return (.spatial (← variant.ballPosition body), body)
  | .pose => do
    let (pose, upright) ← variant.pose body
    return (.pose pose upright, body)
  | .place position angles => do
    let position ← Coords.ofRow position
    let angles ← angles.mapM Coords.ofRow
    changed (variant.place position angles body)
  | .stop => changed (.ok body.stop)
  | .bendPath angle => changed (variant.bendPath angle body)
  | .slowBall friction step => changed (variant.slowBall friction step body)
where
  changed (outcome : Except Fault (Body K)) : Except Fault (Reply K × Body K) := do
    let body ← outcome
    return (.body body, body)

/-- Answers a question about the session. -/
def answer (s : Session K) (reply : Except Fault (Reply K)) : Except Fault (Reply K) × Session K :=
  (reply, s)

def step (s : Session K) : Command K → Except Fault (Reply K) × Session K
  | .makeRobot name body =>
    match body.elim (.error .missingBody) s.makeRobot with
    | .error fault => (.error fault, s)
    | .ok robot => (robotReply robot, s.setRobot name robot)
  | .setBall body => s.commit do
    let _ ← s.bodies.get body
    let next ← s.setBall body
    return (.value (next.nameOf body), next)
  | .tick time => s.commit do
    let clock ← s.clock.advance time
    return (.value clock, { s with clock })
  | .host name bodyName position rotation velocity => s.commit do
    let body ← s.bodies.get name
    let written := { body with
      name := bodyName.getD body.name
      position := position.getD body.position
      rotation := rotation.getD body.rotation
      velocity := velocity.getD body.velocity }
    return (.body written, s.setBody name written)
  | .look name =>
    match s.robots.get name with
    | .error fault => (.error fault, s)
    | .ok robot => s.lookReply name robot
  | .robotPose name => s.answer do
    let (pose, upright) ← s.robotPose (← s.robots.get name)
    return .pose pose upright
  | .odometry name pose => s.answer do
    let robot ← s.robots.get name
    return .givenPose (← odometry robot (← GivenPose.ofArguments pose))
  | .hostBall name => s.answer do
    let _ ← s.robots.get name
    return .level (← s.hostBall)
  | .model name => s.answer do return .model (← s.robots.get name).ball
  | .body name => s.answer do return .body (← s.bodies.get name)
  | .placeRobot name placement angles turns => s.commit do
    let robot ← s.robots.get name
    let position ← Coords.ofRow placement.position
    let angles ← Coords.ofRow angles
    let (body, next) ←
      s.placeRobot robot placement.inCommonFrame position angles turns placement.stops
    return (.body body, next)
  | .placeBall name placement => s.commit do
    let robot ← s.robots.get name
    let position ← Coords.ofRow placement.position
    let next ← s.placeBall name robot placement.inCommonFrame position placement.stops
    return (← next.ballReply name, next)
  | .slowBall name friction => s.commit do
    let _ ← s.robots.get name
    let next ← s.slowBall friction
    return (← next.ballReply name, next)
  | .inFirstTeam name robotsPerTeam => s.answer do
    let number ← (← s.bodies.get name).name.robotNumber
    return .flag (← inFirstTeam (.int number) robotsPerTeam)
  | .numberOf name => s.answer do
    return .value (.int (← (← s.bodies.get name).name.robotNumber))
  | .addMember group body => s.commit do
    let group ← (GroupName.ofText? group).elim (.error .missingKey) .ok
    let _ ← s.bodies.get body
    let scene := s.run.scene.addMember group body
    return (.nothing, { s with run := { s.run with scene } })
  | .onBody name request => s.commit do
    let body ← s.bodies.get name
    let (reply, body) ← bodyReply s.run.variant body request
    return (reply, s.setBody name body)

/-- Carries out commands in order. -/
def steps (s : Session K) : List (Command K) → List (Except Fault (Reply K)) × Session K
  | [] => ([], s)
  | command :: commands =>
    let (reply, s) := s.step command
    let (replies, s) := s.steps commands
    (reply :: replies, s)

theorem steps_append (s : Session K) (before after : List (Command K)) :
    s.steps (before ++ after) =
      ((s.steps before).1 ++ ((s.steps before).2.steps after).1,
        ((s.steps before).2.steps after).2) := by
  induction before generalizing s with
  | nil => rfl
  | cons command before ih => simp [steps, ih]

end Session
end RobotSoccer
