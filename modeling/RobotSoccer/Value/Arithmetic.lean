import RobotSoccer.Value.Rows

/-! Arithmetic of plain values. Integers stay exact among themselves; with a real they are rounded
first. -/
namespace RobotSoccer

variable {K : Type} [Scalar K]

/-- The quotient, refused for a zero divisor of either sign. -/
def Scalar.divide (x y : K) : Except Fault K :=
  if isZero y then .error .divisionByZero else .ok (x / y)

namespace Number

def combine (onInts : Int → Int → Int) (onReals : K → K → K) :
    Number K → Number K → Except Fault (Number K)
  | int m, int n => .ok (int (onInts m n))
  | m, n => do
    let x ← m.toReal
    let y ← n.toReal
    return real (onReals x y)

def sub : Number K → Number K → Except Fault (Number K) := combine (· - ·) (· - ·)

def neg : Number K → Number K
  | int n => int (-n)
  | real x => real (-x)

end Number

namespace Value

/-- Combines two numbers, or a grid and what can be read as one. -/
def combine (onInts : Int → Int → Int) (onReals : K → K → K) :
    Value K → Value K → Except Fault (Value K)
  | grid g, v => do
    (g.zip? onReals (← v.asGrid)).elim (.error .unreadable) fun g => .ok (grid g)
  | v, grid g => do
    ((← v.asGrid).zip? onReals g).elim (.error .unreadable) fun g => .ok (grid g)
  | v, w => do return (← Number.combine onInts onReals (← v.number) (← w.number)).toValue

/-- The sum. Texts are joined, and rows of one kind. -/
def add : Value K → Value K → Except Fault (Value K)
  | text s, text t => .ok (text (s ++ t))
  | list xs, list ys => .ok (list (xs ++ ys))
  | tuple xs, tuple ys => .ok (tuple (xs ++ ys))
  | v, w => combine (· + ·) (· + ·) v w

def sub : Value K → Value K → Except Fault (Value K) := combine (· - ·) (· - ·)

def mul : Value K → Value K → Except Fault (Value K) := combine (· * ·) (· * ·)

def neg : Value K → Except Fault (Value K)
  | grid g => .ok (grid (g.map fun x => -x))
  | v => do return (← v.number).neg.toValue

/-- What a clock shows after some time. Items are added to a list from rows of any kind. -/
def advance : Value K → Value K → Except Fault (Value K)
  | list xs, grid g => add (list xs) (grid g)
  | list xs, v => do return list (xs ++ (← v.items))
  | v, w => add v w

theorem sub_int (m n : Int) : (int m : Value K).sub (.int n) = .ok (.int (m - n)) := rfl

end Value
end RobotSoccer
