import RobotSoccer.Ball.Friction
import RobotSoccer.Body.Basic
import RobotSoccer.Geometry.Coords
import RobotSoccer.Geometry.Pose

/-! Where bodies are and how they are moved, in millimetres, in both variants. -/
namespace RobotSoccer

variable {K : Type} [Scalar K]

def millimetresPerMetre : K := 1000.0

/-- The radius of the ball (mm), the height at which it is reported on a plane. -/
def ballRadius : K := 50.0

/-- A body stands if its z-axis is tilted by no more than the angle of this cosine. -/
def uprightCosine : K := 0.3

namespace Variant

/-- The position as the host gives it, in metres. -/
def rawPosition (variant : Variant) (body : Body K) : Except Fault (Vec3 K) := do
  match variant with
  | .volumetric =>
    match ← body.position.firstItems 3 with
    | [x, y, z] => Vec3.ofItems [x, y, z]
    | _ => .error .wrongCount
  | .planar =>
    match ← body.position.firstItems 2 with
    | [x, y] => Vec3.ofItems [x, y, .real 0.0]
    | _ => .error .wrongCount

def position (variant : Variant) (body : Body K) : Except Fault (Vec3 K) := do
  return (← rawPosition variant body).scale millimetresPerMetre

def levelPosition (variant : Variant) (body : Body K) : Except Fault (Vec2 K) := do
  return (← position variant body).level

def ballPosition (variant : Variant) (body : Body K) : Except Fault (Vec3 K) := do
  let position ← position variant body
  return match variant with
    | .volumetric => position
    | .planar => position.withHeight ballRadius

/-- The pose on the ground plane and whether the body stands upright. -/
def pose (variant : Variant) (body : Body K) : Except Fault (Pose K × Bool) := do
  match variant with
  | .volumetric =>
    let yaw ← body.rotation.readYaw
    let place ← levelPosition variant body
    let tilt ← (← body.rotation.item 2).item 2
    return (⟨yaw, place⟩, ← (Value.real uprightCosine).le? tilt)
  | .planar =>
    let heading ← body.rotation.readReal
    return (⟨heading, ← levelPosition variant body⟩, true)

/-- The value that a body takes as its rotation for Euler angles. -/
def bodyRotation (variant : Variant) (angles : Coords K) : Except Fault (Value K) :=
  match variant, angles with
  | .volumetric, .spatial angles => .ok (Mat3.ofEuler angles).toValue
  | .volumetric, .flat _ => .error .wrongCount
  | .planar, angles => angles.z.map .real

/-- The value that a body takes as its position, in metres. On the plane it has no height. -/
def bodyPosition (variant : Variant) (position : Coords K) : Value K :=
  let components :=
    match variant, position with
    | .planar, .spatial v => v.level.components
    | _, position => position.components
  .list (components.map fun c => .real (c / millimetresPerMetre))

/-- Places a body at a position (mm); without Euler angles it keeps its rotation. -/
def place (variant : Variant) (position : Coords K) (angles : Option (Coords K)) (body : Body K) :
    Except Fault (Body K) := do
  match angles with
  | none => return body.place (bodyPosition variant position) none
  | some angles =>
    return body.place (bodyPosition variant position) (some (← bodyRotation variant angles))

/-- Bends the path of a ball by turning its velocity. In space the ball's rolling is left to the
host. -/
def bendPath (variant : Variant) (angle : Value K) (body : Body K) : Except Fault (Body K) := do
  match variant with
  | .volumetric => return body
  | .planar =>
    let velocity ← body.levelVelocity
    return { body with velocity := (velocity.rotateBy (← angle.asAngle)).toValue }

/-- Slows a ball down over one step. In space this is left to the host. -/
def slowBall (variant : Variant) (friction step : Value K) (body : Body K) :
    Except Fault (Body K) := do
  match variant with
  | .volumetric => return body
  | .planar =>
    let velocity ← body.levelVelocity
    return { body with velocity := (← Ball.afterStep velocity friction step).toValue }

end Variant
end RobotSoccer
