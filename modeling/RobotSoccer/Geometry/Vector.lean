import RobotSoccer.Geometry.Angle
import RobotSoccer.Value.Reading

/-! Vectors on the ground plane and in space, in millimetres unless a name says otherwise. -/
namespace RobotSoccer

structure Vec2 (K : Type) where
  x : K
  y : K
  deriving DecidableEq

structure Vec3 (K : Type) where
  x : K
  y : K
  z : K
  deriving DecidableEq

variable {K : Type} [Scalar K]

/-- The square of a number, refused if a finite number has none. -/
def Scalar.square (x : K) : Except Fault K :=
  let y := x * x
  if isFinite x && !isFinite y then .error .overflow else .ok y

/-- Below this length a vector has no direction. -/
def minLength : K := 1e-8

namespace Vec2

def zero : Vec2 K := ⟨0.0, 0.0⟩

def add (v w : Vec2 K) : Vec2 K := ⟨v.x + w.x, v.y + w.y⟩

def sub (v w : Vec2 K) : Vec2 K := ⟨v.x - w.x, v.y - w.y⟩

def neg (v : Vec2 K) : Vec2 K := ⟨-v.x, -v.y⟩

def scale (v : Vec2 K) (s : K) : Vec2 K := ⟨v.x * s, v.y * s⟩

def divide (v : Vec2 K) (s : K) : Except Fault (Vec2 K) := do
  return ⟨← Scalar.divide v.x s, ← Scalar.divide v.y s⟩

instance : Add (Vec2 K) := ⟨add⟩
instance : Sub (Vec2 K) := ⟨sub⟩
instance : Neg (Vec2 K) := ⟨neg⟩

def length (v : Vec2 K) : K := Scalar.hypot v.x v.y

/-- The vector of length one in the same direction, or zero if there is no direction. -/
def unit (v : Vec2 K) : Vec2 K :=
  let length := v.length
  if Scalar.lt length minLength then zero else ⟨v.x / length, v.y / length⟩

/-- Counter-clockwise rotation about the origin. -/
def rotate (v : Vec2 K) (angle : K) : Vec2 K :=
  let c := Scalar.cos angle
  let s := Scalar.sin angle
  ⟨v.x * c - v.y * s, v.x * s + v.y * c⟩

/-- A rotation that is computed in half precision throughout. -/
def rotateCoarsely (v : Vec2 K) (cos sin : K) : Vec2 K :=
  let product (s t : K) : K := Scalar.half (Scalar.half s * t)
  ⟨Scalar.half (product v.x cos - product v.y sin), Scalar.half (product v.x sin + product v.y cos)⟩

/-- Rotation by an angle as precise as the angle is. -/
def rotateBy (v : Vec2 K) (a : Angle K) : Vec2 K :=
  if a.coarse then v.rotateCoarsely a.cos a.sin else v.rotate a.radians

/-- Rotates by an angle components that may be any values. Grids can be multiplied and added, but
they are no components of a vector. -/
def rotateValues (x y angle : Value K) : Except Fault (Vec2 K) := do
  let refuse (factor : Value K) : Except Fault (Vec2 K) := do
    let _ ← (← x.mul factor).sub (← y.mul factor)
    .error .wrongKind
  match ← angle.readAngle, x, y with
  | none, _, _ => refuse (.grid (← angle.asGrid))
  | some a, .grid _, _ | some a, _, .grid _ => refuse (.real a.cos)
  | some a, x, y => return rotateBy ⟨← x.asReal, ← y.asReal⟩ a

def isZero (v : Vec2 K) : Bool := Scalar.isZero v.x && Scalar.isZero v.y

def isClose (v w : Vec2 K) : Bool := Scalar.isClose v.x w.x && Scalar.isClose v.y w.y

def components (v : Vec2 K) : List K := [v.x, v.y]

/-- Reads the first two items. -/
def ofItems (items : List (Value K)) : Except Fault (Vec2 K) := do
  match items with
  | [] => .error .tooShort
  | x :: rest =>
    let x ← x.readReal
    match rest with
    | [] => .error .tooShort
    | y :: _ => return ⟨x, ← y.readReal⟩

def ofValue (v : Value K) : Except Fault (Vec2 K) :=
  v.row?.elim (.error (.notCoordinates 2 v.kind)) ofItems

/-- A vector of two numbers or of one row. -/
def ofArguments : List (Value K) → Except Fault (Vec2 K)
  | [row] => ofValue row
  | [x, y] => ofItems [x, y]
  | arguments => .error (.coordinateCount 2 arguments.length)

def toValue (v : Vec2 K) : Value K := .list [.real v.x, .real v.y]

def text (v : Vec2 K) : String :=
  "Vector2D(x=" ++ Scalar.text v.x ++ ", y=" ++ Scalar.text v.y ++ ")"

end Vec2

namespace Vec3

def zero : Vec3 K := ⟨0.0, 0.0, 0.0⟩

def add (v w : Vec3 K) : Vec3 K := ⟨v.x + w.x, v.y + w.y, v.z + w.z⟩

def sub (v w : Vec3 K) : Vec3 K := ⟨v.x - w.x, v.y - w.y, v.z - w.z⟩

def neg (v : Vec3 K) : Vec3 K := ⟨-v.x, -v.y, -v.z⟩

def scale (v : Vec3 K) (s : K) : Vec3 K := ⟨v.x * s, v.y * s, v.z * s⟩

def divide (v : Vec3 K) (s : K) : Except Fault (Vec3 K) := do
  return ⟨← Scalar.divide v.x s, ← Scalar.divide v.y s, ← Scalar.divide v.z s⟩

instance : Add (Vec3 K) := ⟨add⟩
instance : Sub (Vec3 K) := ⟨sub⟩
instance : Neg (Vec3 K) := ⟨neg⟩

def length (v : Vec3 K) : Except Fault K := do
  let x ← Scalar.square v.x
  let y ← Scalar.square v.y
  let z ← Scalar.square v.z
  return Scalar.sqrt (x + y + z)

/-- The vector of length one in the same direction, or zero if there is no direction. -/
def unit (v : Vec3 K) : Except Fault (Vec3 K) := do
  let length ← v.length
  return if Scalar.lt length minLength then zero
    else ⟨v.x / length, v.y / length, v.z / length⟩

/-- Whether the part on the ground plane is zero. -/
def isLevelZero (v : Vec3 K) : Bool := Scalar.isZero v.x && Scalar.isZero v.y

def isClose (v w : Vec3 K) : Bool :=
  Scalar.isClose v.x w.x && Scalar.isClose v.y w.y && Scalar.isClose v.z w.z

/-- The part on the ground plane. -/
def level (v : Vec3 K) : Vec2 K := ⟨v.x, v.y⟩

def withHeight (v : Vec3 K) (z : K) : Vec3 K := ⟨v.x, v.y, z⟩

def components (v : Vec3 K) : List K := [v.x, v.y, v.z]

/-- Reads the first three items. -/
def ofItems (items : List (Value K)) : Except Fault (Vec3 K) := do
  let level ← Vec2.ofItems items
  match items with
  | _ :: _ :: z :: _ => return ⟨level.x, level.y, ← z.readReal⟩
  | _ => .error .tooShort

def ofValue (v : Value K) : Except Fault (Vec3 K) :=
  v.row?.elim (.error (.notCoordinates 3 v.kind)) ofItems

/-- A vector of three numbers or of one row. -/
def ofArguments : List (Value K) → Except Fault (Vec3 K)
  | [row] => ofValue row
  | [x, y, z] => ofItems [x, y, z]
  | arguments => .error (.coordinateCount 3 arguments.length)

def toValue (v : Vec3 K) : Value K := .list [.real v.x, .real v.y, .real v.z]

def text (v : Vec3 K) : String :=
  "Vector3D(x=" ++ Scalar.text v.x ++ ", y=" ++ Scalar.text v.y ++ ", z=" ++ Scalar.text v.z ++ ")"

end Vec3
end RobotSoccer
