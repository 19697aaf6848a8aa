import RobotSoccer.Text.Digit
import RobotSoccer.Text.Blank

/-! Numerals as people write them: blanks around, an optional sign, digits of any script with single
underscores between them, and for reals a point, an exponent or a name of infinity or NaN. -/
namespace RobotSoccer

/-- A written real number, not yet rounded. -/
inductive Numeral where
  | decimal (negative : Bool) (digits : Nat) (exponent : Int)
  | infinite (negative : Bool)
  | nan
  deriving DecidableEq

/-- Splits off a leading sign and says whether it is a minus. -/
def splitSign : List Char → Bool × List Char
  | '-' :: rest => (true, rest)
  | '+' :: rest => (false, rest)
  | cs => (false, cs)

/-- Whether every underscore stands between two digits, `afterDigit` telling of the character
before. -/
def underscoresInside (afterDigit : Bool) : List Char → Bool
  | [] => true
  | '_' :: rest =>
    afterDigit && (match rest with | c :: _ => isDigit c | [] => false) &&
      underscoresInside false rest
  | c :: rest => underscoresInside (isDigit c) rest

/-- The characters of a numeral without blanks around and without its underscores. -/
def numeralChars? (s : String) : Option (List Char) :=
  let cs := trimBlank s.toList
  if underscoresInside false cs then some (cs.filter (· ≠ '_')) else none

/-- Reads a signed row of digits. -/
def signedDigits? (cs : List Char) : Option Int :=
  let (negative, digits) := splitSign cs
  if !digits.isEmpty && digits.all isDigit then
    some (if negative then -(digitsValue digits : Int) else digitsValue digits)
  else none

/-- Reads an integer of at most `maxDigits` digits. -/
def readInt? (s : String) : Option Int := do
  let cs ← numeralChars? s
  if maxDigits < (splitSign cs).2.length then none else signedDigits? cs

/-- Reads what follows the digits of a real: nothing, or an exponent. -/
def readExponent? : List Char → Option Int
  | [] => some 0
  | e :: rest => if e = 'e' ∨ e = 'E' then signedDigits? rest else none

/-- Reads digits, a point among them or not, and an exponent. -/
def readDecimal? (negative : Bool) (cs : List Char) : Option Numeral := do
  let (whole, rest) := cs.span isDigit
  let (fraction, rest) :=
    match rest with
    | '.' :: rest => rest.span isDigit
    | rest => ([], rest)
  if whole.isEmpty && fraction.isEmpty then none
  else
    let exponent ← readExponent? rest
    some (.decimal negative (digitsValue (whole ++ fraction)) (exponent - fraction.length))

namespace Numeral

def ofText? (s : String) : Option Numeral := do
  let (negative, body) := splitSign (← numeralChars? s)
  match String.ofList (body.map Char.toLower) with
  | "inf" | "infinity" => some (.infinite negative)
  | "nan" => some .nan
  | _ => readDecimal? negative body

example : ofText? " -1_0.50e-2\n" = some (.decimal true 1050 (-4)) := by decide +kernel
example : ofText? "+Infinity" = some (.infinite false) ∧ ofText? "1__0" = none := by decide +kernel
example : ofText? ".5" = some (.decimal false 5 (-1)) ∧ ofText? "." = none := by decide +kernel

end Numeral

example : readInt? " +1_2 " = some 12 ∧ readInt? "1.0" = none := by decide +kernel

end RobotSoccer
