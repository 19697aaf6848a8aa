import RobotSoccer.Numeric.Double.Basic

/-! The shortest decimal text of a double: of the decimals that round to it, those with the fewest
digits, of these the nearest. Texts are positional from `10 ^ (-4)` to below `10 ^ 16`. -/
namespace RobotSoccer

/-- The largest `k` with `10 ^ k ≤ q`, for a positive `q`. -/
def decimalExponent (q : Rat) : Int :=
  let k := binaryExponent q * 30103 / 100000
  if q < 10 ^ k then k - 1
  else if 10 ^ (k + 1) ≤ q then k + 1
  else k

/-- A decimal number `digits * 10 ^ places`. -/
structure Decimal where
  digits : Nat
  places : Int
  deriving DecidableEq

namespace Decimal

def toRat (d : Decimal) : Rat := d.digits * 10 ^ d.places

/-- The digits, without zeros at the end. -/
def significant (d : Decimal) : List Char :=
  ((Nat.toDigits 10 d.digits).reverse.dropWhile (· = '0')).reverse

/-- The exponent of the first digit. -/
def exponent (d : Decimal) : Int := d.places + (Nat.toDigits 10 d.digits).length - 1

def exponentText (exponent : Int) : String :=
  let size := toString exponent.natAbs
  (if exponent < 0 then "e-" else "e+") ++ (if exponent.natAbs < 10 then "0" ++ size else size)

def text (d : Decimal) : String :=
  let digits := d.significant
  let exponent := d.exponent
  if -4 ≤ exponent ∧ exponent < 16 then
    if exponent < 0 then
      "0." ++ String.ofList (List.replicate (-exponent - 1).toNat '0' ++ digits)
    else
      let whole := exponent.toNat + 1
      let fraction := digits.drop whole
      String.ofList (digits.take whole ++ List.replicate (whole - digits.length) '0') ++ "." ++
        (if fraction.isEmpty then "0" else String.ofList fraction)
  else
    let fraction := digits.drop 1
    String.ofList (digits.take 1) ++
      (if fraction.isEmpty then "" else "." ++ String.ofList fraction) ++ exponentText exponent

end Decimal

/-- The rationals that round to one positive double: the ends belong to it if its significand is
even. -/
structure RoundingInterval where
  low : Rat
  high : Rat
  closed : Bool

namespace RoundingInterval

/-- Below a power of two the neighbour is only half as far away. -/
def ofParts (m : Nat) (e : Int) : RoundingInterval :=
  let unit : Rat := 2 ^ e
  let below := if m = leastFull ∧ e ≠ -1074 then unit / 4 else unit / 2
  ⟨m * unit - below, m * unit + unit / 2, m % 2 = 0⟩

def contains (i : RoundingInterval) (q : Rat) : Bool :=
  (i.low < q || (i.closed && i.low = q)) && (q < i.high || (i.closed && q = i.high))

/-- Of the two multiples of `10 ^ places` around `q`, the nearer one in the interval, the even one
if both are equally near. -/
def decimal? (i : RoundingInterval) (q : Rat) (places : Int) : Option Decimal :=
  let low := (q / 10 ^ places).floor.toNat
  let lower : Decimal := ⟨low, places⟩
  let upper : Decimal := ⟨low + 1, places⟩
  let nearest : Decimal := ⟨(nearestEven (q / 10 ^ places)).toNat, places⟩
  match i.contains lower.toRat, i.contains upper.toRat with
  | true, true => some nearest
  | true, false => some lower
  | false, true => some upper
  | false, false => none

/-- Tries grids of more and more digits, down from the first digit's exponent. -/
def shortest (i : RoundingInterval) (q : Rat) : (fuel : Nat) → (places : Int) → Decimal
  | 0, places => ⟨(nearestEven (q / 10 ^ places)).toNat, places⟩
  | fuel + 1, places => (i.decimal? q places).getD (shortest i q fuel (places - 1))

end RoundingInterval

namespace Double

def shortestDecimal (m : Nat) (e : Int) : Decimal :=
  let q : Rat := m * 2 ^ e
  (RoundingInterval.ofParts m e).shortest q 16 (decimalExponent q)

def text : Double → String
  | nan => "nan"
  | infinite negative => if negative then "-inf" else "inf"
  | finite negative m e _ =>
    (if negative then "-" else "") ++ (if m = 0 then "0.0" else (shortestDecimal m e).text)

example : text 0.1 = "0.1" ∧ text (-2.5) = "-2.5" ∧ text 1e22 = "1e+22" := by decide +kernel
example : text 5e-324 = "5e-324" ∧ text 1e-5 = "1e-05" ∧ text 123456.0 = "123456.0" := by
  decide +kernel
example : text 9007199254740993.0 = "9007199254740992.0" ∧ text 1e16 = "1e+16" := by
  decide +kernel

end Double
end RobotSoccer
