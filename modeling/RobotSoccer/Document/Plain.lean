import RobotSoccer.Document.Moment

/-! What plain scalars denote: null, truth values, integers in several bases, real numbers, moments,
or else texts. -/
namespace RobotSoccer.Document

def nulls : List String := ["", "~", "null", "Null", "NULL"]

def trues : List String := ["yes", "Yes", "YES", "true", "True", "TRUE", "on", "On", "ON"]

def falses : List String := ["no", "No", "NO", "false", "False", "FALSE", "off", "Off", "OFF"]

/-- Whether a row of decimal digits and underscores starts with a digit. -/
def isDigitRow : List Char → Bool
  | [] => false
  | c :: rest => isDecimal c && rest.all fun d => isDecimal d || d = '_'

/-- Whether a row is not empty and has only underscores and some digits. -/
def isRowOf (digits cs : List Char) : Bool :=
  !cs.isEmpty && cs.all fun c => c = '_' || digits.contains c

def withoutUnderscores (cs : List Char) : List Char := cs.filter (· ≠ '_')

/-- Splits a text at colons. -/
def splitColons (cs : List Char) : List (List Char) :=
  cs.foldr (fun c parts =>
    if c = ':' then [] :: parts
    else
      match parts with
      | [] => [[c]]
      | part :: parts => (c :: part) :: parts) [[]]

/-- Whether a row is a number below sixty, of one or two digits. -/
def isSixtieth : List Char → Bool
  | [a] => isDecimal a
  | [a, b] => '0' ≤ a && a ≤ '5' && isDecimal b
  | _ => false

/-- An integer without its sign, if the characters are one. Digits in other bases than ten may turn
out to be missing; decimal digits may be too many. -/
def magnitude? (cs : List Char) : Option (Except Fault Nat) :=
  let inBase (base : Nat) (digits : List Char) : Except Fault Nat :=
    let digits := withoutUnderscores digits
    if digits.isEmpty then .error .unreadable else .ok (valueInBase base digits)
  let decimal (digits : List Char) : Except Fault Nat :=
    if maxDigits < digits.length then .error .unreadable else .ok (valueInBase 10 digits)
  match cs with
  | ['0'] => some (.ok 0)
  | '0' :: 'b' :: digits => if isRowOf "01".toList digits then some (inBase 2 digits) else none
  | '0' :: 'x' :: digits =>
    if isRowOf "0123456789abcdefABCDEF".toList digits then some (inBase 16 digits) else none
  | '0' :: digits => if isRowOf "01234567".toList digits then some (inBase 8 cs) else none
  | _ =>
    match splitColons cs with
    | [digits] => if isDigitRow digits then some (decimal (withoutUnderscores digits)) else none
    | whole :: sixtieths =>
      if isDigitRow whole && sixtieths.all isSixtieth then
        some do
          let whole ← decimal (withoutUnderscores whole)
          return sixtieths.foldl (fun n part => 60 * n + valueInBase 10 part) whole
      else none
    | [] => none

def integer? (cs : List Char) : Option (Except Fault Int) :=
  let (negative, digits) := splitSign cs
  (magnitude? digits).map fun magnitude =>
    magnitude.map fun n => if negative then -(n : Int) else n

/-- Whether the characters are an exponent with a sign. -/
def isSignedExponent : List Char → Bool
  | e :: sign :: digits =>
    (e = 'e' || e = 'E') && (sign = '+' || sign = '-') && !digits.isEmpty && digits.all isDecimal
  | _ => false

/-- Whether the characters after a point are digits, underscores among them, and an exponent or
none. -/
def isFraction (cs : List Char) : Bool :=
  let rest := cs.dropWhile fun c => isDecimal c || c = '_'
  rest.isEmpty || isSignedExponent rest

/-- The characters before and after the first point. -/
def splitPoint? (cs : List Char) : Option (List Char × List Char) :=
  let whole := cs.takeWhile (· ≠ '.')
  match cs.dropWhile (· ≠ '.') with
  | _ :: fraction => some (whole, fraction)
  | [] => none

section

variable {K : Type} [Scalar K]

/-- The number of characters that are known to be one. -/
def realOf (cs : List Char) : K :=
  Scalar.ofNumeral ((Numeral.ofText? (String.ofList (withoutUnderscores cs))).getD .nan)

/-- The number of a whole part and sixtieths of it, added up from the last. -/
def sixtiethsValue (parts : List (List Char)) : Except Fault K := do
  let (sum, _) ← parts.reverse.foldlM
    (fun (sum, base) part => do
      let unit ← (Number.int base : Number K).toReal
      return (sum + realOf part * unit, base * 60))
    ((0.0 : K), (1 : Int))
  return sum

/-- A real number, if the characters are one. It has a point; sixtieths may come before it. -/
def real? (cs : List Char) : Option (Except Fault K) := do
  let (negative, body) := splitSign cs
  let signed (x : K) : K := if negative then -x else x
  if [".inf", ".Inf", ".INF"].contains (String.ofList body) then
    return .ok (Scalar.ofNumeral (.infinite negative))
  else if [".nan", ".NaN", ".NAN"].contains (String.ofList cs) then
    return .ok (Scalar.ofNumeral .nan)
  else
    let (whole, fraction) ← splitPoint? body
    match splitColons whole with
    | [digits] =>
      let written :=
        if digits.isEmpty then
          cs.head? = some '.' && isDigitRow (fraction.take 1) && isFraction fraction
        else isDigitRow digits && isFraction fraction
      if written then return .ok (signed (realOf body)) else none
    | first :: sixtieths =>
      if isDigitRow first && sixtieths.all isSixtieth &&
          fraction.all (fun c => isDecimal c || c = '_') then
        return (sixtiethsValue (splitColons body)).map signed
      else none
    | [] => none

/-- The value of a plain scalar. -/
def plainValue (text : String) : Except Fault (Value K) :=
  let cs := text.toList
  if nulls.contains text then .ok .null
  else if trues.contains text then .ok (.bool true)
  else if falses.contains text then .ok (.bool false)
  else
    match (real? cs : Option (Except Fault K)), integer? cs, readMoment? cs with
    | some x, _, _ => x.map .real
    | none, some n, _ => n.map .int
    | none, none, some m => m.map .moment
    | none, none, none =>
      if text = "=" || text = "<<" then .error .malformedDocument else .ok (.text text)

end

example : (integer? "1:30".toList).bind (·.toOption) = some 90 := by decide +kernel
example : (integer? "-0x1_F".toList).bind (·.toOption) = some (-31) := by decide +kernel
example : (integer? "08".toList).isNone ∧ (integer? "010".toList).bind (·.toOption) = some 8 := by
  decide +kernel
example : ((real? "1_0.5".toList).bind (·.toOption)) = some (10.5 : Double) := by decide +kernel
example : (real? "-.5".toList : Option (Except Fault Double)).isNone := by decide +kernel
example : (real? "1e3".toList : Option (Except Fault Double)).isNone := by decide +kernel

end RobotSoccer.Document
