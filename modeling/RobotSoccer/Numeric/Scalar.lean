import RobotSoccer.Numeric.Double.Aligned
import RobotSoccer.Numeric.Double.Angle
import RobotSoccer.Numeric.Double.Half
import RobotSoccer.Numeric.Double.Root
import RobotSoccer.Text.Numeral

/-! The numbers that positions, headings and velocities are made of. The simulation runs on doubles;
its geometry is stated over any such numbers. -/
namespace RobotSoccer

class Scalar (K : Type) extends Add K, Sub K, Mul K, Div K, Neg K, OfScientific K where
  /-- The number of an integer, `none` if it is too large. -/
  ofInt? : Int → Option K
  ofNumeral : Numeral → K
  /-- The exact order, `none` if one is not a number. -/
  compare? : K → K → Option Ordering
  compareInt? : K → Int → Option Ordering
  isNaN : K → Bool
  /-- Whether the number has a minus sign, a negative zero included. -/
  isNegative : K → Bool
  /-- The integer part, toward zero, `none` if there is none. -/
  truncate? : K → Option Int
  /-- The floored remainder. -/
  mod : K → K → K
  sqrt : K → K
  hypot : K → K → K
  sin : K → K
  cos : K → K
  /-- The angle of a point, its y first, seen from the positive x-axis. -/
  atan2 : K → K → K
  pi : K
  /-- The nearest number of half precision. -/
  half : K → K
  text : K → String
  /-- The texts of numbers that stand together. -/
  alignedTexts : List K → List String

instance : Scalar Double where
  ofInt? := Double.ofInt?
  ofNumeral
    | .decimal negative digits exponent => Double.ofDecimal negative digits exponent
    | .infinite negative => .infinite negative
    | .nan => .nan
  compare? := Double.compare?
  compareInt? := Double.compareInt?
  isNaN := Double.isNaN
  isNegative := Double.isNegative
  truncate? := Double.truncate?
  mod := Double.mod
  sqrt := Double.sqrt
  hypot := Double.hypot
  sin := Double.sin
  cos := Double.cos
  atan2 := Double.atan2
  pi := Double.pi
  half := Double.half
  text := Double.text
  alignedTexts := Double.alignedTexts

namespace Scalar

variable {K : Type} [Scalar K]

/-- Equality as numbers: the zeros are equal, NaN is equal to nothing. -/
def eq (x y : K) : Bool := compare? x y == some .eq

def lt (x y : K) : Bool := compare? x y == some .lt

def le (x y : K) : Bool := lt x y || eq x y

def isZero (x : K) : Bool := eq x 0.0

def isFinite (x : K) : Bool := (truncate? x).isSome

def abs (x : K) : K := if isNegative x then -x else x

/-- Equal, or finite and apart by at most a billionth of the larger one. -/
def isClose (x y : K) : Bool :=
  eq x y ||
    (isFinite x && isFinite y &&
      (let gap := abs (y - x)
       le gap (abs (1e-9 * y)) || le gap (abs (1e-9 * x))))

end Scalar
end RobotSoccer
