import RobotSoccer.Numeric.Scalar

/-! Headings: angles from the positive x-axis, counter-clockwise, kept in `[-π, π)`. -/
namespace RobotSoccer

variable {K : Type} [Scalar K]

/-- The heading of an angle. -/
def headingOf (angle : K) : K :=
  Scalar.mod (angle + Scalar.pi) (2.0 * Scalar.pi) - Scalar.pi

def isHeading (angle : K) : Bool := Scalar.le (-Scalar.pi) angle && Scalar.lt angle Scalar.pi

/-- A heading moved by half a turn, away from its own side. Rounding may lead to `π` itself. -/
def halfTurned (heading : K) : K :=
  if Scalar.le 0.0 heading then heading - Scalar.pi else heading + Scalar.pi

/-- The opposite heading. One that is in range already is only moved by half a turn. -/
def oppositeHeading (angle : K) : K :=
  let turned := halfTurned (if isHeading angle then angle else headingOf angle)
  if Scalar.lt turned Scalar.pi then turned else -Scalar.pi

example : oppositeHeading (0.0 : Double) = -Double.pi := by decide +kernel
example : headingOf Double.pi = -Double.pi := by decide +kernel

end RobotSoccer
