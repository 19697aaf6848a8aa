import RobotSoccer.Geometry.Coords
import RobotSoccer.Geometry.Pose

/-! The change between a team's own view of the field and the common frame. The first team sees the
field turned by half a turn about its centre; the change is its own inverse. -/
namespace RobotSoccer

structure Frame where
  turned : Bool
  deriving DecidableEq

/-- What a frame can be changed of: coordinates, a pose, or a plain value. -/
inductive Quantity (K : Type) where
  | coords (v : Coords K)
  | pose (p : GivenPose K)
  | plain (v : Value K)

variable {K : Type} [Scalar K]

namespace Frame

def position (f : Frame) (v : Vec3 K) : Vec3 K :=
  if f.turned then ⟨-v.x, -v.y, v.z⟩ else v

def levelPosition (f : Frame) (v : Vec2 K) : Vec2 K := if f.turned then -v else v

def heading (f : Frame) (angle : K) : K := if f.turned then oppositeHeading angle else angle

def pose (f : Frame) (p : Pose K) : Pose K := if f.turned then p.opposite else p

def coords (f : Frame) : Coords K → Coords K
  | .flat v => .flat (f.levelPosition v)
  | .spatial v => .spatial (f.position v)

/-- Of Euler angles only the one about the z-axis changes. -/
def euler (f : Frame) (angles : Vec3 K) : Vec3 K := ⟨angles.x, angles.y, f.heading angles.z⟩

def givenEuler (f : Frame) (angles : Coords K) : Except Fault (Coords K) :=
  if f.turned then do
    return .spatial (f.euler ⟨angles.x, angles.y, ← angles.z⟩)
  else .ok angles

def givenHeading (f : Frame) (angle : Value K) : Except Fault (Value K) :=
  if f.turned then angle.oppositeHeading.map .real else .ok angle

def givenPose (f : Frame) (p : GivenPose K) : Except Fault (GivenPose K) :=
  if f.turned then p.opposite.map Pose.given else .ok p

/-- A plain value changes its sign. -/
def plain (f : Frame) (v : Value K) : Except Fault (Value K) :=
  if f.turned then v.neg else .ok v

/-- Changes a pose as a pose, and anything else as a position. -/
def apply (f : Frame) : Quantity K → Except Fault (Quantity K)
  | .pose p => do return .pose (← f.givenPose p)
  | .coords v => return .coords (f.coords v)
  | .plain v => do return .plain (← f.plain v)

theorem givenPose_given (f : Frame) (p : Pose K) :
    f.givenPose p.given = .ok (f.pose p).given := by
  cases f with | mk turned => cases turned <;> rfl

end Frame
end RobotSoccer
