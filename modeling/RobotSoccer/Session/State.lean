import RobotSoccer.Ball.Model
import RobotSoccer.Config
import RobotSoccer.Body.Motion
import RobotSoccer.Frame
import RobotSoccer.Session.Table
import RobotSoccer.Team.Roster

/-! The state of a simulated match: a run, the bodies of its scene and the robots that play in it.
Bodies and robots are referred to by name. -/
namespace RobotSoccer

/-- What all robots share. The ball is set once. -/
structure Run (K : Type) where
  variant : Variant
  robotsPerTeam : Value K
  /-- In ms. -/
  stepLength : Value K
  /-- In m/s². -/
  ballFriction : Value K
  scene : Scene String
  ball : Option String

/-- A robot with its body, its team, the other robots as they were found when it was made, and what
it knows about the ball. -/
structure Robot (K : Type) where
  body : String
  team : TeamMember K
  roster : Roster String
  ball : Ball.Model K

structure Session (K : Type) where
  run : Run K
  bodies : Table (Body K)
  robots : Table (Robot K)
  /-- In ms. -/
  clock : Value K
  generator : Generator K

/-- The description of a body to be made. -/
structure BodyPlan (K : Type) where
  variant : Option Variant
  name : Value K
  /-- In metres. -/
  position : Value K
  yaw : Value K
  upright : Bool
  rotation : Option (Value K)
  velocity : Option (Value K)

variable {K : Type} [Scalar K]

/-- The variant of a name that a run is made with. -/
def Variant.supported : Value K → Except Fault Variant
  | .text name => (ofText? name).elim (.error (.unsupportedVariant name)) .ok
  | given => .error (if given.canBeKey then .unsupportedVariant given.display else .wrongKind)

namespace Run

/-- A run without a ball. -/
def make (variant : Variant) (robotsPerTeam stepLength ballFriction : Value K)
    (scene : Scene String) : Run K :=
  ⟨variant, robotsPerTeam, stepLength, ballFriction, scene, none⟩

def ofConfig (config : Config K) (scene : Scene String) : Run K :=
  make config.variant config.robotsPerTeam config.stepLength config.ballFriction scene

/-- A run of the default settings. -/
def default (scene : Scene String) : Run K := ofConfig .default scene

end Run

namespace Robot

def frame (r : Robot K) : Frame := ⟨r.team.isFirst⟩

end Robot

namespace BodyPlan

/-- Makes the body; a rotation and a velocity that are given replace its own unchecked. -/
def make (plan : BodyPlan K) (usual : Variant) : Except Fault (Body K) := do
  let body ← Body.make (plan.variant.getD usual) plan.name plan.position plan.yaw plan.upright
  return { body with
    rotation := plan.rotation.getD body.rotation
    velocity := plan.velocity.getD body.velocity }

/-- Makes bodies in order. -/
def makeAll (usual : Variant) (plans : List (String × BodyPlan K)) :
    Except Fault (Table (Body K)) := do
  return ⟨← plans.mapM fun plan => do return (plan.1, ← plan.2.make usual)⟩

end BodyPlan

namespace Session

def start (run : Run K) (bodies : Table (Body K)) (clock : Value K) (generator : Generator K) :
    Session K :=
  ⟨run, bodies, Table.empty, clock, generator⟩

/-- The name that a body's host gives it at present. -/
def nameOf (s : Session K) (body : String) : Value K :=
  (s.bodies.get? body).elim .null Body.name

def setBody (s : Session K) (name : String) (body : Body K) : Session K :=
  { s with bodies := s.bodies.set name body }

def setRobot (s : Session K) (name : String) (robot : Robot K) : Session K :=
  { s with robots := s.robots.set name robot }

/-- Makes a robot on a body: its number is at the end of the body's name, and the other robots are
looked up once. -/
def makeRobot (s : Session K) (body : String) : Except Fault (Robot K) := do
  let number ← (← s.bodies.get body).name.robotNumber
  let team ← TeamMember.ofNumber number s.run.robotsPerTeam
  let roster ← Roster.ofScene s.nameOf s.run.scene (.int number) s.run.robotsPerTeam
  return ⟨body, team, roster, .fresh⟩

/-- Sets the ball. Another one cannot take its place. -/
def setBall (s : Session K) (ball : String) : Except Fault (Session K) :=
  match s.run.ball with
  | some present =>
    if present = ball then .ok s else .error (.ballTaken (s.nameOf present).display)
  | none => .ok { s with run := { s.run with ball := some ball } }

/-- The body of the ball, if the run has one. -/
def ballBody? (s : Session K) : Except Fault (Option (String × Body K)) := do
  match s.run.ball with
  | none => return none
  | some ball => return some (ball, ← s.bodies.get ball)

end Session
end RobotSoccer
