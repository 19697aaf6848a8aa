import RobotSoccer.Numeric.Double.Basic

/-! Square roots and Euclidean lengths, rounded once. -/
namespace RobotSoccer

/-- The integer nearest to the square root of a nonnegative `q`, the even one if two are equally
near. -/
def nearestRoot (q : Rat) : Nat :=
  let low := squareRootFloor q.floor.toNat
  let half : Rat := low * low + low + 1 / 4
  if q < half then low
  else if half < q then low + 1
  else low + low % 2

example : nearestRoot (25 / 4) = 2 ∧ nearestRoot (26 / 4) = 3 ∧ nearestRoot (49 / 4) = 4 := by
  decide +kernel

namespace Double

/-- The double nearest to the square root of a nonnegative rational. -/
def roundRoot (q : Rat) : Double :=
  if q = 0 then zero false
  else
    let e := max (-1074) (binaryExponent q / 2 - 52)
    ofParts false (nearestRoot (q * 4 ^ (-e))) e

def sqrt : Double → Double
  | nan => nan
  | infinite negative => if negative then nan else infinite false
  | x@(finite negative ..) =>
    if x.isZero then x else if negative then nan else roundRoot x.toRat

/-- The length of a vector, infinite as soon as one component is. -/
def hypot : Double → Double → Double
  | infinite _, _ | _, infinite _ => infinite false
  | nan, _ | _, nan => nan
  | x@(finite ..), y@(finite ..) => roundRoot (x.toRat * x.toRat + y.toRat * y.toRat)

example : sqrt 2.0 = 1.4142135623730951 ∧ hypot (-3.0) 4.0 = 5.0 := by decide +kernel

end Double
end RobotSoccer
