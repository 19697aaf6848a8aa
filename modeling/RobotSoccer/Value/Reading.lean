import RobotSoccer.Value.Rows

/-! Reading plain values as numbers. Texts are read as the numerals they spell. -/
namespace RobotSoccer

variable {K : Type} [Scalar K]

namespace Value

def readReal : Value K → Except Fault K
  | text s => (Numeral.ofText? s).elim (.error .unreadable) fun n => .ok (Scalar.ofNumeral n)
  | v => v.asReal

/-- The integer part of a real, toward zero. -/
def truncate (x : K) : Except Fault Int :=
  if Scalar.isNaN x then .error .unreadable
  else (Scalar.truncate? x).elim (.error .overflow) .ok

/-- The integer that a number is or truncates to. -/
def asInt (v : Value K) : Except Fault Int := do
  match ← v.number with
  | .int n => return n
  | .real x => truncate x

def readInt : Value K → Except Fault Int
  | text s => (readInt? s).elim (.error .unreadable) .ok
  | v => v.asInt

/-- A named field of a record. -/
def field (name : String) : Value K → Except Fault (Value K)
  | record fields => (field? fields name).elim (.error .missingKey) .ok
  | grid _ => .error .tooShort
  | _ => .error .wrongKind

end Value
end RobotSoccer
