import RobotSoccer.Numeric.Double.Basic

/-! Numbers of half precision, with eleven significant bits, among the doubles. -/
namespace RobotSoccer.Double

/-- The exponent at which a positive rational is rounded to half precision. -/
def halfExponent (q : Rat) : Int := max (-24) (binaryExponent q - 10)

/-- The nearest number of half precision, the even one if two are equally near. What rounds beyond
the largest one, 65504, is infinite. -/
def half : Double → Double
  | nan => nan
  | infinite negative => infinite negative
  | x@(finite negative ..) =>
    let magnitude := x.toRat.abs
    let e := halfExponent magnitude
    let rounded : Rat := nearestEven (magnitude * 2 ^ (-e)) * 2 ^ e
    if 65504 < rounded then infinite negative
    else
      let y := round rounded false
      if negative then -y else y

example : half 0.5403023058681398 = 0.54052734375 ∧ half (-0.0) = -0.0 := by decide +kernel
example : half 65519.0 = 65504.0 ∧ half (-65520.0) = infinite true := by decide +kernel
example : half 2.9e-8 = 0.0 ∧ half 3e-8 = 5.9604644775390625e-8 := by decide +kernel

end RobotSoccer.Double
