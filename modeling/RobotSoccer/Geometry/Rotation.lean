import RobotSoccer.Geometry.Vector

/-! Rotations in space: matrices of Euler angles, and the heading that a host's matrix shows. -/
namespace RobotSoccer

/-- A matrix by its rows. -/
structure Mat3 (K : Type) where
  first : Vec3 K
  second : Vec3 K
  third : Vec3 K
  deriving DecidableEq

variable {K : Type} [Scalar K]

namespace Mat3

/-- One entry of a product. A zero is written without a sign. -/
def entry (row column : Vec3 K) : K :=
  row.x * column.x + row.y * column.y + row.z * column.z + 0.0

def mulRow (row : Vec3 K) (b : Mat3 K) : Vec3 K :=
  ⟨entry row ⟨b.first.x, b.second.x, b.third.x⟩, entry row ⟨b.first.y, b.second.y, b.third.y⟩,
    entry row ⟨b.first.z, b.second.z, b.third.z⟩⟩

def mul (a b : Mat3 K) : Mat3 K := ⟨mulRow a.first b, mulRow a.second b, mulRow a.third b⟩

instance : Mul (Mat3 K) := ⟨mul⟩

def aboutX (a : Angle K) : Mat3 K :=
  ⟨⟨1.0, 0.0, 0.0⟩, ⟨0.0, a.cos, -a.sin⟩, ⟨0.0, a.sin, a.cos⟩⟩

def aboutY (a : Angle K) : Mat3 K :=
  ⟨⟨a.cos, 0.0, a.sin⟩, ⟨0.0, 1.0, 0.0⟩, ⟨-a.sin, 0.0, a.cos⟩⟩

def aboutZ (a : Angle K) : Mat3 K :=
  ⟨⟨a.cos, -a.sin, 0.0⟩, ⟨a.sin, a.cos, 0.0⟩, ⟨0.0, 0.0, 1.0⟩⟩

/-- The rotation about x, then y, then z. -/
def ofAngles (x y z : Angle K) : Mat3 K := aboutZ z * aboutY y * aboutX x

/-- The rotation by Euler angles. -/
def ofEuler (angles : Vec3 K) : Mat3 K :=
  ofAngles (.exact angles.x) (.exact angles.y) (.exact angles.z)

/-- Where the body's x-axis points on the ground plane. -/
def yaw (m : Mat3 K) : K := Scalar.atan2 m.second.x m.first.x

def toValue (m : Mat3 K) : Value K :=
  .list [m.first.toValue, m.second.toValue, m.third.toValue]

/-- The rotation by three angles of a row. Rows of angles are no entries of a matrix. -/
def ofEulerRow (row : Value K) : Except Fault (Mat3 K) := do
  match ← row.items with
  | [x, y, z] =>
    match ← x.readAngle, ← y.readAngle, ← z.readAngle with
    | some x, some y, some z => return ofAngles x y z
    | _, _, _ => .error .unreadable
  | _ => .error .wrongCount

end Mat3

namespace Value

/-- The real number at a place of a matrix, where null stands for an unknown one. -/
def readEntry : Value K → Except Fault K
  | .null => .ok (Scalar.ofNumeral .nan)
  | v => v.readReal

/-- The heading of a rotation that a host gives as rows, from the first entries of its first two
rows. Rows of unequal extents are no matrix, and entries are no rows. -/
def readYaw (rotation : Value K) : Except Fault K := do
  let matrix ← rotation.readGrid readEntry
  match matrix.extents with
  | rows :: columns :: inner =>
    if rows < 2 || columns < 1 then .error .tooShort
    else
      match inner, matrix.entries[columns]?, matrix.entries[0]? with
      | [], some y, some x => return Scalar.atan2 y x
      | _, _, _ => .error .wrongKind
  | _ => .error .tooShort

end Value
end RobotSoccer
