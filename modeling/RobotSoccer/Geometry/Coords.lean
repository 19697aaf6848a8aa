import RobotSoccer.Geometry.Vector
import RobotSoccer.Value.Order

/-! Coordinates that are given with a height or without one. What only one of the two has is refused
for the other. -/
namespace RobotSoccer

inductive Coords (K : Type) where
  | flat (v : Vec2 K)
  | spatial (v : Vec3 K)

variable {K : Type} [Scalar K]

namespace Coords

def dimension : Coords K → Nat
  | flat _ => 2
  | spatial _ => 3

def components : Coords K → List K
  | flat v => v.components
  | spatial v => v.components

def x : Coords K → K
  | flat v => v.x
  | spatial v => v.x

def y : Coords K → K
  | flat v => v.y
  | spatial v => v.y

def z : Coords K → Except Fault K
  | flat _ => .error .missingMember
  | spatial v => .ok v.z

/-- Coordinates by the given number of dimensions. -/
def ofArguments (dimension : Nat) (arguments : List (Value K)) : Except Fault (Coords K) :=
  if dimension = 2 then (Vec2.ofArguments arguments).map flat
  else (Vec3.ofArguments arguments).map spatial

/-- Coordinates of a row of three or of two numbers. -/
def ofRow (row : Value K) : Except Fault (Coords K) := do
  let items ← row.items
  ofArguments (if items.length = 3 then 3 else 2) items

/-- Adds or subtracts. Of a second term in space a first one in the plane takes the level part. -/
def combine (onFlat : Vec2 K → Vec2 K → Vec2 K) (onSpatial : Vec3 K → Vec3 K → Vec3 K) :
    Coords K → Coords K → Except Fault (Coords K)
  | flat v, flat w => .ok (flat (onFlat v w))
  | flat v, spatial w => .ok (flat (onFlat v w.level))
  | spatial v, spatial w => .ok (spatial (onSpatial v w))
  | spatial _, flat _ => .error .missingMember

def add : Coords K → Coords K → Except Fault (Coords K) := combine Vec2.add Vec3.add

def sub : Coords K → Coords K → Except Fault (Coords K) := combine Vec2.sub Vec3.sub

def neg : Coords K → Coords K
  | flat v => flat (-v)
  | spatial v => spatial (-v)

def scale (factor : Value K) (v : Coords K) : Except Fault (Coords K) := do
  let s ← factor.asReal
  return match v with
    | flat v => flat (v.scale s)
    | spatial v => spatial (v.scale s)

def divide (divisor : Value K) (v : Coords K) : Except Fault (Coords K) := do
  let s ← divisor.asReal
  match v with
  | flat v => return flat (← v.divide s)
  | spatial v => return spatial (← v.divide s)

/-- Coordinates in the plane are close to none in space. -/
def isClose : Coords K → Coords K → Bool
  | flat v, flat w => v.isClose w
  | spatial v, spatial w => v.isClose w
  | _, _ => false

/-- Combines the entries of a grid with the components. -/
def withEntries {α : Type} (f : K → K → α) (g : Grid K) (v : Coords K) :
    Except Fault (Grid α) :=
  (Grid.zip? f g ⟨[v.dimension], v.components⟩).elim (.error .unreadable) .ok

/-- Which components are equal to the entries of a grid. -/
def sameEntries (g : Grid K) : Coords K → Except Fault (Grid Bool) := withEntries Scalar.eq g

/-- The products of the entries of a grid and the components. -/
def timesEntries (g : Grid K) : Coords K → Except Fault (Grid K) := withEntries (· * ·) g

def length : Coords K → Except Fault K
  | flat v => .ok v.length
  | spatial v => v.length

def unit : Coords K → Except Fault (Coords K)
  | flat v => .ok (flat v.unit)
  | spatial v => v.unit.map spatial

def rotate (angle : Value K) : Coords K → Except Fault (Coords K)
  | flat v => do return flat (v.rotateBy (← angle.asAngle))
  | spatial _ => .error .missingMember

def isLevelZero : Coords K → Bool
  | flat v => v.isZero
  | spatial v => v.isLevelZero

/-- The component whose number equals `index`. -/
def component (index : Value K) (v : Coords K) : Except Fault K := do
  match ← v.components.zipIdx.findM? fun c => index.same (.int c.2) with
  | some c => return c.1
  | none => .error (.noSuchComponent v.dimension)

def level : Coords K → Except Fault (Vec2 K)
  | flat _ => .error .missingMember
  | spatial v => .ok v.level

def withHeight (z : Value K) : Coords K → Except Fault (Vec3 K)
  | flat _ => .error .missingMember
  | spatial v => do return v.withHeight (← z.readReal)

def toValue (v : Coords K) : Value K := .list (v.components.map .real)

def text : Coords K → String
  | flat v => v.text
  | spatial v => v.text

end Coords
end RobotSoccer
