import RobotSoccer.Text.Visible
import RobotSoccer.Value.Basic

/-! The texts of plain values in messages. -/
namespace RobotSoccer

variable {K : Type} [Scalar K]

/-- A code in hexadecimal digits, with zeros in front up to a width. -/
def hexDigits (width n : Nat) : String :=
  let digits := Nat.toDigits 16 n
  String.ofList (List.replicate (width - digits.length) '0' ++ digits)

/-- A character inside quotes: the quote, the backslash and what has no visible form are escaped. -/
def quotedChar (quote c : Char) : String :=
  let n := c.toNat
  if c = quote ∨ c = '\\' then "\\" ++ c.toString
  else if c = '\n' then "\\n"
  else if c = '\r' then "\\r"
  else if c = '\t' then "\\t"
  else if isVisible c then c.toString
  else if n < 0x100 then "\\x" ++ hexDigits 2 n
  else if n < 0x10000 then "\\u" ++ hexDigits 4 n
  else "\\U" ++ hexDigits 8 n

/-- A text in single quotes, or in double quotes if it has single ones only. -/
def quoted (s : String) : String :=
  let quote := if s.toList.contains '\'' && !s.toList.contains '"' then '"' else '\''
  quote.toString ++ String.join (s.toList.map (quotedChar quote)) ++ quote.toString

namespace Grid

/-- The width of the lines in a grid's text. -/
def lineWidth : Nat := 75

/-- The text of a grid by itself, without commas. -/
def display (g : Grid K) : String :=
  if g.entries.isEmpty then "[]"
  else layout " " g.extents (Scalar.alignedTexts g.entries) " " lineWidth

/-- The text of a grid inside another value. -/
def inner (g : Grid K) : String :=
  if g.entries.isEmpty then
    let extents := ", ".intercalate (g.extents.map toString)
    let shape := if g.extents.length = 1 then "" else "shape=(" ++ extents ++ "), "
    "array([], " ++ shape ++ "dtype=float64)"
  else
    let words := Scalar.alignedTexts g.entries
    "array(" ++ layout ", " g.extents words "       " (lineWidth - 1) ++ ")"

end Grid

namespace Value

mutual

/-- The text of a value inside another one. -/
def inner : Value K → String
  | null => "None"
  | bool b => if b then "True" else "False"
  | int n => toString n
  | real x => Scalar.text x
  | text s => quoted s
  | moment m => m.text
  | list xs => "[" ++ ", ".intercalate (innerItems xs) ++ "]"
  | tuple [x] => "(" ++ inner x ++ ",)"
  | tuple xs => "(" ++ ", ".intercalate (innerItems xs) ++ ")"
  | grid g => g.inner
  | record fs => "\x7b" ++ ", ".intercalate (innerFields fs) ++ "\x7d"

def innerItems : List (Value K) → List String
  | [] => []
  | x :: xs => inner x :: innerItems xs

def innerFields : List (Value K × Value K) → List String
  | [] => []
  | (key, value) :: fs => (inner key ++ ": " ++ inner value) :: innerFields fs

end

/-- The text of a value by itself: texts stand without quotes. -/
def display : Value K → String
  | text s => s
  | grid g => g.display
  | v => v.inner

end Value
end RobotSoccer
