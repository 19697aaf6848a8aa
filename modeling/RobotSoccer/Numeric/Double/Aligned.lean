import RobotSoccer.Numeric.Double.Shortest

/-! Texts of doubles that stand in columns. They have one width and at most eight digits after the
point, and all of them an exponent if their sizes differ much. -/
namespace RobotSoccer

/-- At most this many digits stand after the point. -/
def maxPlaces : Nat := 8

/-- The parts of a number's text around the point and the exponent. -/
structure TextParts where
  whole : String
  fraction : String
  /-- The exponent with its sign, empty in positional notation. -/
  exponent : String

namespace TextParts

def padLeft (width : Nat) (filler : Char) (s : String) : String :=
  String.ofList (List.replicate (width - s.length) filler) ++ s

def padRight (width : Nat) (filler : Char) (s : String) : String :=
  s ++ String.ofList (List.replicate (width - s.length) filler)

/-- The text with its parts as wide as given. A fraction before an exponent is filled up by
zeros. -/
def text (wholeWidth fractionWidth exponentWidth : Nat) (t : TextParts) : String :=
  let whole := padLeft wholeWidth ' ' t.whole
  if t.exponent.isEmpty then whole ++ "." ++ padRight fractionWidth ' ' t.fraction
  else
    let size := padLeft (exponentWidth - 1) '0' (t.exponent.drop 1).toString
    whole ++ "." ++ padRight fractionWidth '0' t.fraction ++ "e" ++ (t.exponent.take 1).toString ++
      size

end TextParts

namespace Decimal

def withoutLastZeros (cs : List Char) : String :=
  String.ofList (cs.reverse.dropWhile (· = '0')).reverse

/-- The digits before and after the point. -/
def positionalParts (d : Decimal) : TextParts :=
  let unit := Nat.pow 10 d.places.natAbs
  if 0 ≤ d.places then ⟨toString (d.digits * unit), "", ""⟩
  else
    let fraction := TextParts.padLeft d.places.natAbs '0' (toString (d.digits % unit))
    ⟨toString (d.digits / unit), withoutLastZeros fraction.toList, ""⟩

/-- The first digit, those after it, and the exponent. -/
def scientificParts (d : Decimal) : TextParts :=
  let exponent := if d.digits = 0 then 0 else d.exponent
  let size := TextParts.padLeft 2 '0' (toString exponent.natAbs)
  ⟨String.ofList ((Nat.toDigits 10 d.digits).take 1), String.ofList (d.significant.drop 1),
    (if exponent < 0 then "-" else "+") ++ size⟩

end Decimal

namespace Double

/-- The shortest decimal of a finite double, if it has no digits below `10 ^ places`, else the
nearest decimal that has none. The sign is left out. -/
def decimalTo (places : Int) : Double → Decimal
  | finite _ m e _ =>
    let q : Rat := m * 2 ^ e
    let d := if m = 0 then ⟨0, 0⟩ else shortestDecimal m e
    if d.places < places then ⟨(nearestEven (q * 10 ^ (-places))).toNat, places⟩ else d
  | _ => ⟨0, 0⟩

/-- The parts of a finite double's text in positional or scientific notation. -/
def textParts (scientific : Bool) (x : Double) : TextParts :=
  let parts :=
    if scientific then
      let place := if x.isZero then 0 else decimalExponent x.toRat.abs - maxPlaces
      (x.decimalTo place).scientificParts
    else (x.decimalTo (-maxPlaces)).positionalParts
  if x.isNegative then { parts with whole := "-" ++ parts.whole } else parts

/-- Whether numbers are written with exponents: the largest is at least `10 ^ 8`, the smallest is
below `10 ^ (-4)`, or one is more than a thousand times the other. Zeros do not count. -/
def needExponents (xs : List Double) : Bool :=
  let sizes := (xs.filter fun x => x.isFinite && !x.isZero).map fun x =>
    if x.isNegative then -x else x
  match sizes with
  | [] => false
  | x :: rest =>
    let largest := rest.foldl (fun a b => if a.toRat < b.toRat then b else a) x
    let smallest := rest.foldl (fun a b => if b.toRat < a.toRat then b else a) x
    (1e8 : Double).toRat ≤ largest.toRat || smallest.toRat < (1e-4 : Double).toRat ||
      (largest / smallest).compare? 1000.0 == some .gt

def maxLength (texts : List String) : Nat := texts.foldl (fun n s => max n s.length) 0

/-- The texts of doubles that stand together. -/
def alignedTexts (xs : List Double) : List String :=
  let scientific := needExponents xs
  let parts := (xs.filter isFinite).map (textParts scientific)
  let fractionWidth := maxLength (parts.map TextParts.fraction)
  let exponentWidth := maxLength (parts.map TextParts.exponent)
  let afterPoint := if scientific then fractionWidth + exponentWidth + 1 else fractionWidth
  let others := maxLength ((xs.filter (!·.isFinite)).map Double.text)
  let wholeWidth := max (maxLength (parts.map TextParts.whole)) (others - (afterPoint + 1))
  xs.map fun x =>
    if x.isFinite then (textParts scientific x).text wholeWidth fractionWidth exponentWidth
    else TextParts.padLeft (wholeWidth + afterPoint + 1) ' ' x.text

example : alignedTexts [1.0, -2.5, 0.1] = [" 1. ", "-2.5", " 0.1"] := by decide +kernel
example : alignedTexts [1e22, 1.5] = ["1.0e+22", "1.5e+00"] := by decide +kernel
example : alignedTexts [nan, 1.0, infinite true] = [" nan", "  1.", "-inf"] := by decide +kernel
example : alignedTexts [0.1234567891] = ["0.12345679"] := by decide +kernel

end Double
end RobotSoccer
