import RobotSoccer.Numeric.Rounding

/-! Binary floating-point numbers with 53 significant bits. A finite double is read as the exact
rational `toRat`, and every operation rounds an exact result once, by `round`. -/
namespace RobotSoccer

/-- The least number of 53 bits. -/
abbrev leastFull : Nat := 0x10000000000000

/-- A significand of exactly 53 bits, or a shorter one at the least exponent. -/
def Canonical (significand : Nat) (exponent : Int) : Prop :=
  significand < 2 * leastFull ∧ -1074 ≤ exponent ∧ exponent ≤ 971 ∧
    (leastFull ≤ significand ∨ exponent = -1074)

instance (m : Nat) (e : Int) : Decidable (Canonical m e) := by
  unfold Canonical; infer_instance

inductive Double where
  | nan
  | infinite (negative : Bool)
  | finite (negative : Bool) (significand : Nat) (exponent : Int)
      (canonical : Canonical significand exponent)
  deriving DecidableEq

namespace Double

/-- The exact value of a finite double. Infinities and NaN have none and read as zero. -/
def toRat : Double → Rat
  | finite negative m e _ => (if negative then -(m : Rat) else m) * 2 ^ e
  | _ => 0

def isNaN : Double → Bool
  | nan => true
  | _ => false

def isFinite : Double → Bool
  | finite .. => true
  | _ => false

/-- Whether the sign bit is set; NaN carries none. -/
def isNegative : Double → Bool
  | nan => false
  | infinite negative => negative
  | finite negative .. => negative

def isZero : Double → Bool
  | finite _ m _ _ => m = 0
  | _ => false

def zero (negative : Bool) : Double := finite negative 0 (-1074) (by decide)

instance : Inhabited Double := ⟨zero false⟩

/-- The double of a significand of at most 53 bits, or of one more, at an exponent. -/
def ofParts (negative : Bool) (m : Nat) (e : Int) : Double :=
  if h : Canonical m e then finite negative m e h
  else if h : Canonical (m / 2) (e + 1) then finite negative (m / 2) (e + 1) h
  else infinite negative

/-- The exponent at which a positive rational is rounded. -/
def roundingExponent (q : Rat) : Int := max (-1074) (binaryExponent q - 52)

/-- The double nearest to `q`, to the even significand if two are equally near.
An exact zero takes the given sign. -/
def round (q : Rat) (zeroSign : Bool) : Double :=
  if q = 0 then zero zeroSign
  else
    let magnitude := q.abs
    let e := roundingExponent magnitude
    ofParts (q < 0) (nearestEven (magnitude * 2 ^ (-e))).toNat e

def neg : Double → Double
  | nan => nan
  | infinite negative => infinite !negative
  | finite negative m e h => finite (!negative) m e h

/-- The sign of an exact zero sum is negative only if both terms have the sign. -/
def add : Double → Double → Double
  | nan, _ | _, nan => nan
  | infinite s, infinite t => if s = t then infinite s else nan
  | infinite s, finite .. => infinite s
  | finite .., infinite t => infinite t
  | x@(finite s ..), y@(finite t ..) => round (x.toRat + y.toRat) (s && t)

def mul : Double → Double → Double
  | nan, _ | _, nan => nan
  | infinite s, y => if y.isZero then nan else infinite (s != y.isNegative)
  | x, infinite t => if x.isZero then nan else infinite (x.isNegative != t)
  | x@(finite s ..), y@(finite t ..) => round (x.toRat * y.toRat) (s != t)

def div : Double → Double → Double
  | nan, _ | _, nan => nan
  | infinite _, infinite _ => nan
  | infinite s, finite t .. => infinite (s != t)
  | finite s .., infinite t => zero (s != t)
  | x@(finite s ..), y@(finite t ..) =>
    if y.isZero then if x.isZero then nan else infinite (s != t)
    else round (x.toRat / y.toRat) (s != t)

/-- The floored remainder, rounded: it has the sign of the divisor, also when it is zero. -/
def mod : Double → Double → Double
  | nan, _ | _, nan => nan
  | infinite _, _ => nan
  | x@(finite s ..), infinite t =>
    if x.isZero then zero t else if s = t then x else infinite t
  | x@(finite ..), y@(finite t ..) =>
    if y.isZero then nan
    else round (x.toRat - y.toRat * ((x.toRat / y.toRat).floor : Rat)) t

instance : Neg Double := ⟨neg⟩
instance : Add Double := ⟨add⟩
instance : Sub Double := ⟨fun x y => x + -y⟩
instance : Mul Double := ⟨mul⟩
instance : Div Double := ⟨div⟩

/-- The exact order of two doubles, `none` if one is NaN. -/
def compare? : Double → Double → Option Ordering
  | nan, _ | _, nan => none
  | infinite s, infinite t => some (compare t s)
  | infinite s, finite .. => some (if s then .lt else .gt)
  | finite .., infinite t => some (if t then .gt else .lt)
  | x@(finite ..), y@(finite ..) =>
    some (if x.toRat < y.toRat then .lt else if y.toRat < x.toRat then .gt else .eq)

/-- The exact order of a double and an integer. -/
def compareInt? (x : Double) (n : Int) : Option Ordering :=
  match x with
  | nan => none
  | infinite s => some (if s then .lt else .gt)
  | finite .. => some (if x.toRat < n then .lt else if n < x.toRat then .gt else .eq)

/-- The nearest double of an integer, `none` if that is infinite. -/
def ofInt? (n : Int) : Option Double :=
  let x := round n false
  if x.isFinite then some x else none

/-- The integer part, toward zero, of a finite double. -/
def truncate? (x : Double) : Option Int :=
  if x.isFinite then
    some (if x.toRat < 0 then -(-x.toRat).floor else x.toRat.floor)
  else none

/-- The double nearest to `digits * 10 ^ exponent`. Beyond `10 ^ 400` every significand
overflows, and below `10 ^ (-400)` it vanishes, so the power is never computed there. -/
def ofDecimal (negative : Bool) (digits : Nat) (exponent : Int) : Double :=
  let length := (digits.log2 : Int) / 4
  if digits = 0 then zero negative
  else if 400 < exponent then infinite negative
  else if exponent + 2 * length + 2 < -400 then zero negative
  else
    let magnitude := round (digits * (10 : Rat) ^ exponent) false
    if negative then -magnitude else magnitude

instance : OfScientific Double where
  ofScientific digits down places := ofDecimal false digits (if down then -places else places)

/-- The interchange word: sign, biased exponent, and significand without its leading bit. -/
def toBits : Double → UInt64
  | nan => 0x7ff8000000000000
  | infinite negative => (if negative then 0xfff0000000000000 else 0x7ff0000000000000)
  | finite negative m e _ =>
    let sign := if negative then 0x8000000000000000 else 0
    UInt64.ofNat (sign + (if m < leastFull then m else (e + 1074).toNat * leastFull + m))

example : (0.1 + 0.2 : Double).toBits = 0x3fd3333333333334 := by decide +kernel
example : (1.0 / 3.0 : Double).toBits = 0x3fd5555555555555 := by decide +kernel
example : (-0.5 : Double).mod 2.0 = 1.5 ∧ (7.0 : Double).mod (-4.0) = -1.0 := by decide +kernel

end Double
end RobotSoccer
