import RobotSoccer.Geometry.Rotation

/-! Bodies of a scene, in metres and radians as the host holds them. The host may set a body's
fields to any values. -/
namespace RobotSoccer

/-- How a body is simulated: in space, with a matrix as its rotation, or on the plane, with a
heading. -/
inductive Variant where
  | volumetric | planar
  deriving DecidableEq

namespace Variant

def text : Variant → String
  | volumetric => "volumetric"
  | planar => "planar"

def ofText? (name : String) : Option Variant :=
  if name = volumetric.text then some volumetric
  else if name = planar.text then some planar
  else none

end Variant

structure Body (K : Type) where
  variant : Variant
  name : Value K
  position : Value K
  rotation : Value K
  velocity : Value K
  /-- How often the body was placed. -/
  moves : Nat
  /-- How often its motion was stopped. -/
  resets : Nat

variable {K : Type} [Scalar K]

namespace Body

/-- No motion. -/
def rest : Variant → Value K
  | .volumetric => Vec3.zero.toValue
  | .planar => Vec2.zero.toValue

/-- The matrix of a heading. For a body that lies down its third row is zero. -/
def yawMatrix (yaw : K) (stands : Bool) : Mat3 K :=
  let turned := Mat3.aboutZ (.exact yaw)
  if stands then turned else { turned with third := Vec3.zero }

/-- The rotation of a body that is made with a heading. -/
def initialRotation (yaw : Value K) (stands : Bool) : Variant → Except Fault (Value K)
  | .planar => .ok yaw
  | .volumetric => do
    let angle ← yaw.asReal
    if Scalar.isFinite angle || Scalar.isNaN angle then return (yawMatrix angle stands).toValue
    else .error .unreadable

/-- A resting body. On the plane only the first two coordinates are kept. -/
def make (variant : Variant) (name position yaw : Value K) (stands : Bool) :
    Except Fault (Body K) := do
  let coordinates ← position.items
  let position := match variant with
    | .volumetric => coordinates
    | .planar => coordinates.take 2
  let rotation ← initialRotation yaw stands variant
  return ⟨variant, name, .list position, rotation, rest variant, 0, 0⟩

/-- Places the body; without a rotation it keeps its own. -/
def place (b : Body K) (position : Value K) (rotation : Option (Value K)) : Body K :=
  { b with position, rotation := rotation.getD b.rotation, moves := b.moves + 1 }

def stop (b : Body K) : Body K := { b with velocity := rest b.variant, resets := b.resets + 1 }

/-- The level part of the velocity. -/
def levelVelocity (b : Body K) : Except Fault (Vec2 K) := do
  Vec2.ofItems ((← b.velocity.items).take 2)

end Body
end RobotSoccer
