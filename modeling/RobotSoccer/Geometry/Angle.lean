import RobotSoccer.Geometry.Heading
import RobotSoccer.Value.Arithmetic

/-! Angles in radians that are given as plain values, their sines and cosines, and their opposite
headings. -/
namespace RobotSoccer

/-- An angle, and whether its sine and cosine are rounded to half precision. -/
structure Angle (K : Type) where
  radians : K
  coarse : Bool

variable {K : Type} [Scalar K]

namespace Angle

def exact (radians : K) : Angle K := ⟨radians, false⟩

def cos (a : Angle K) : K :=
  if a.coarse then Scalar.half (Scalar.cos a.radians) else Scalar.cos a.radians

def sin (a : Angle K) : K :=
  if a.coarse then Scalar.half (Scalar.sin a.radians) else Scalar.sin a.radians

end Angle

namespace Value

/-- Whether an integer fits a machine word of 64 bits, signed or not. -/
def fitsWord (n : Int) : Bool := -0x8000000000000000 ≤ n && n < 0x10000000000000000

/-- The angle that a number is. A truth value is a coarse one, and integers beyond a machine word
are none. -/
def angle? : Value K → Option (Angle K)
  | .bool b => some ⟨if b then 1.0 else 0.0, true⟩
  | .int n => if fitsWord n then (Scalar.ofInt? n).map .exact else none
  | .real x => some (.exact x)
  | _ => none

/-- The angle that a value is, or `none` for rows of rows of angles. -/
def readAngle (v : Value K) : Except Fault (Option (Angle K)) :=
  match v.extents? with
  | none => .error .unreadable
  | some [] => (angle? v).elim (.error .wrongKind) fun a => .ok (some a)
  | some _ => if v.leaves.all fun leaf => leaf.angle?.isSome then .ok none else .error .wrongKind

/-- The one angle that a value is. -/
def asAngle (v : Value K) : Except Fault (Angle K) := do
  (← v.readAngle).elim (.error .wrongKind) .ok

/-- The opposite heading of a value. The only entry of a grid can be compared but is no number; it
has an opposite only where that is the end of the range and not computed. -/
def oppositeHeading (v : Value K) : Except Fault K :=
  match v with
  | .grid ⟨_, [x]⟩ =>
    if isHeading x && !Scalar.lt (halfTurned x) Scalar.pi then .ok (-Scalar.pi)
    else .error .wrongKind
  | .grid _ => .error .unreadable
  | v => do return RobotSoccer.oppositeHeading (← v.asReal)

end Value
end RobotSoccer
