import RobotSoccer.Numeric.Double.Basic

/-! Sine, cosine and the angle of a point, rounded once. Each function is enclosed between two
multiples of a power of two, by sums of integers, and the enclosure is refined until both ends
round to one double. -/
namespace RobotSoccer

/-- A number within `radius / 2 ^ bits` of `center / 2 ^ bits`. -/
structure Enclosure where
  center : Int
  radius : Nat
  bits : Nat

namespace Enclosure

/-- A sum of at most about `bits` truncated terms. -/
def ofSum (bits : Nat) (center : Int) : Enclosure := ⟨center, 8 * (bits + 64), bits⟩

/-- The double that every enclosed number rounds to, if there is one. -/
def round? (enclosure : Enclosure) : Option Double :=
  let scale : Rat := 2 ^ enclosure.bits
  let low := Double.round (((enclosure.center - enclosure.radius : Int) : Rat) / scale) false
  let high := Double.round (((enclosure.center + enclosure.radius : Int) : Rat) / scale) false
  if low = high then some low else none

/-- Refines `enclose` by doubling its bits until one double is left. -/
def refine (enclose : Nat → Enclosure) : (fuel bits : Nat) → Double
  | 0, bits =>
    let last := enclose bits
    Double.round ((last.center : Rat) / 2 ^ last.bits) false
  | fuel + 1, bits => (enclose bits).round?.getD (refine enclose fuel (2 * bits))

end Enclosure

/-- Adds `term`, then each term from the one before it: the factor `ratio / 2 ^ bits`, which is at
most one half, times `(2 * n + 2) / (2 * n + 3)`. -/
def eulerSum (bits ratio : Nat) : (fuel n term : Nat) → Nat
  | 0, _, _ => 0
  | fuel + 1, n, term =>
    term + eulerSum bits ratio fuel (n + 1)
      (((term * ratio) >>> bits) * (2 * n + 2) / (2 * n + 3))

/-- The angle of the point `(x, y)` for `0 < y ≤ x`, by Euler's series
`xy/(x² + y²) · Σ ∏ (2n + 2)/(2n + 3) · y²/(x² + y²)`. -/
def arctanSum (bits y x : Nat) : Nat :=
  let square := x * x + y * y
  eulerSum bits (((y * y) <<< bits) / square) (bits + 2) 0 (((x * y) <<< bits) / square)

/-- A right angle. -/
def quarterTurn (bits : Nat) : Nat := 2 * arctanSum bits 1 1

/-- The alternating sum of `term` and the terms after it, `term · square / ((k + 1)(k + 2))`. -/
def alternatingSum (bits square : Nat) : (fuel k term : Nat) → Int
  | 0, _, _ => 0
  | fuel + 1, k, term =>
    if term = 0 then 0
    else term - alternatingSum bits square fuel (k + 2)
      (((term * square) >>> bits) / ((k + 1) * (k + 2)))

/-- Sine of a nonnegative angle below two radians. -/
def sineSum (bits angle : Nat) : Int :=
  alternatingSum bits ((angle * angle) >>> bits) bits 1 angle

/-- Cosine of a nonnegative angle below two radians. -/
def cosineSum (bits angle : Nat) : Int :=
  alternatingSum bits ((angle * angle) >>> bits) bits 0 (1 <<< bits)

/-- The number of whole quarter turns in a nonnegative angle and the rest. The turns are measured
with as many further bits as the angle has before the point. -/
def quarterTurns (bits : Nat) (angle : Rat) : Nat × Nat :=
  let extra := (binaryExponent angle).toNat + 16
  let turn := quarterTurn (bits + extra)
  let whole := (angle * 2 ^ (bits + extra)).floor.toNat
  (whole / turn, (whole % turn) >>> extra)

/-- Cosine of `turns` right angles less than a nonnegative angle. -/
def turnedCosine (bits : Nat) (turns : Nat) (angle : Rat) : Enclosure :=
  let (quarters, rest) := quarterTurns bits angle
  .ofSum bits <|
    match (quarters + 3 * turns) % 4 with
    | 0 => cosineSum bits rest
    | 1 => -sineSum bits rest
    | 2 => -cosineSum bits rest
    | _ => sineSum bits rest

/-- The angle of a point of the first quadrant, seen from the positive x-axis. -/
def quadrantAngle (bits y x : Nat) : Int :=
  if y ≤ x then arctanSum bits y x else quarterTurn bits - arctanSum bits x y

namespace Double

/-- The bits that hold a number of this size, or smaller by the given exponent, with 160 to
spare. -/
def startBits (smallness : Int) : Nat := 160 + smallness.toNat

def cos : Double → Double
  | nan | infinite _ => nan
  | x@(finite _ _ e _) =>
    if x.isZero then 1.0
    else Enclosure.refine (turnedCosine · 0 x.toRat.abs) 8 (startBits (-e))

def sin : Double → Double
  | nan | infinite _ => nan
  | x@(finite negative _ e _) =>
    if x.isZero then x
    else
      let s := Enclosure.refine (turnedCosine · 1 x.toRat.abs) 8 (startBits (-e))
      if negative then -s else s

/-- The double nearest to `k` eighths of a full turn. -/
def eighthTurns (k : Nat) : Double :=
  Enclosure.refine (fun bits => .ofSum bits (k * arctanSum bits 1 1)) 8 160

/-- The double nearest to half a turn. -/
def pi : Double := finite false 7074237752028440 (-51) (by decide)

/-- The magnitude of the angle of `(x, y)`, for points that are not both finite and nonzero. -/
def limitAngle (y x : Double) : Double :=
  if y.isZero then if x.isNegative then pi else 0.0
  else if x.isZero then eighthTurns 2
  else if y.isFinite then if x.isNegative then pi else 0.0
  else if x.isFinite then eighthTurns 2
  else eighthTurns (if x.isNegative then 3 else 1)

/-- The angle of the point `(x, y)` seen from the positive x-axis, with the sign of `y`. -/
def atan2 (y x : Double) : Double :=
  if y.isNaN || x.isNaN then nan
  else
    let magnitude :=
      if y.isFinite && x.isFinite && !y.isZero && !x.isZero then
        let scale : Rat := 2 ^ (1074 : Nat)
        let height := (y.toRat.abs * scale).floor.toNat
        let width := (x.toRat.abs * scale).floor.toNat
        let enclose (bits : Nat) : Enclosure :=
          let angle := quadrantAngle bits height width
          .ofSum bits (if x.isNegative then 2 * quarterTurn bits - angle else angle)
        Enclosure.refine enclose 8 (startBits (width.log2 - height.log2))
      else limitAngle y x
    if y.isNegative then -magnitude else magnitude

example : eighthTurns 4 = pi := by decide +kernel
example : sin pi = 1.2246467991473532e-16 ∧ cos 1.0 = 0.5403023058681398 := by decide +kernel
example : atan2 1.0 (-1.0) = 2.356194490192345 := by decide +kernel

end Double
end RobotSoccer
