import RobotSoccer.Geometry.Heading
import RobotSoccer.Geometry.Vector
import RobotSoccer.Value.Order
import RobotSoccer.Value.Show

/-! Poses on the ground plane: a heading and a position. A pose that a user gives may have any value
as its rotation; it is refused where the rotation has to be a number. -/
namespace RobotSoccer

structure Pose (K : Type) where
  rotation : K
  position : Vec2 K
  deriving DecidableEq

structure GivenPose (K : Type) where
  rotation : Value K
  position : Vec2 K

variable {K : Type} [Scalar K]

namespace Pose

def origin : Pose K := ⟨0.0, Vec2.zero⟩

/-- `b`, given relative to `a`, in the frame that `a` is given in. -/
def add (a b : Pose K) : Pose K :=
  ⟨headingOf (a.rotation + b.rotation), a.position + b.position.rotate a.rotation⟩

instance : Add (Pose K) := ⟨add⟩

/-- The pose turned by half a turn about the origin, without trigonometric error. -/
def opposite (p : Pose K) : Pose K := ⟨oppositeHeading p.rotation, -p.position⟩

def given (p : Pose K) : GivenPose K := ⟨.real p.rotation, p.position⟩

end Pose

namespace GivenPose

def origin : GivenPose K := Pose.origin.given

/-- A pose of nothing, of a rotation, or of a rotation and the arguments of a vector. -/
def ofArguments : List (Value K) → Except Fault (GivenPose K)
  | [] => .ok origin
  | [rotation] => .ok { origin with rotation }
  | rotation :: coordinates :: _ => do
    return ⟨rotation, ← Vec2.ofArguments (← coordinates.items)⟩

def add (a b : GivenPose K) : Except Fault (Pose K) := do
  let heading ← (← a.rotation.add b.rotation).asReal
  let angle ← a.rotation.asAngle
  return ⟨headingOf heading, a.position + b.position.rotateBy angle⟩

def opposite (p : GivenPose K) : Except Fault (Pose K) := do
  return ⟨← p.rotation.oppositeHeading, -p.position⟩

def same (a b : GivenPose K) : Except Fault Bool := do
  return (← a.rotation.same b.rotation) && a.position.isClose b.position

def text (p : GivenPose K) : String :=
  "Pose2D(rotation=" ++ p.rotation.inner ++ ", translation=" ++ p.position.text ++ ")"

theorem opposite_given (p : Pose K) : p.given.opposite = .ok p.opposite := rfl

end GivenPose
end RobotSoccer
