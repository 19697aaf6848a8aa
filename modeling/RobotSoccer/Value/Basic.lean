import RobotSoccer.Fault
import RobotSoccer.Numeric.Scalar
import RobotSoccer.Value.Grid

/-! Plain values, as hosts and configuration files hand them over: their kinds, their numbers, and
when two values without parts are equal. -/
namespace RobotSoccer

/-- A number that is exact as an integer or rounded as a real. -/
inductive Number (K : Type) where
  | int (n : Int)
  | real (x : K)

/-- A day, or a time on a day, by its text. -/
structure Moment where
  text : String
  hasTime : Bool
  deriving DecidableEq

/-- Rows come in three kinds that are never equal to each other: lists, tuples, and grids of reals,
which are compared and combined entry by entry. -/
inductive Value (K : Type) where
  | null
  | bool (b : Bool)
  | int (n : Int)
  | real (x : K)
  | text (s : String)
  | moment (m : Moment)
  | list (items : List (Value K))
  | tuple (items : List (Value K))
  | grid (g : Grid K)
  | record (fields : List (Value K × Value K))
  deriving Inhabited

variable {K : Type} [Scalar K]

namespace Number

/-- The exact order of two numbers, `none` if one is NaN. -/
def compare? : Number K → Number K → Option Ordering
  | int m, int n => some (compare m n)
  | int m, real y => (Scalar.compareInt? y m).map Ordering.swap
  | real x, int n => Scalar.compareInt? x n
  | real x, real y => Scalar.compare? x y

def toReal : Number K → Except Fault K
  | int n => (Scalar.ofInt? n).elim (.error .overflow) .ok
  | real x => .ok x

def toValue : Number K → Value K
  | int n => .int n
  | real x => .real x

end Number

namespace Value

def kind : Value K → Kind
  | null => .null
  | bool _ => .bool
  | int _ => .int
  | real _ => .real
  | text _ => .text
  | moment m => if m.hasTime then .time else .date
  | list _ | tuple _ | grid _ => .list
  | record _ => .record

/-- The number that a value is; truth values count as zero and one. -/
def number? : Value K → Option (Number K)
  | bool b => some (.int b.toNat)
  | int n => some (.int n)
  | real x => some (.real x)
  | _ => none

def number (v : Value K) : Except Fault (Number K) := v.number?.elim (.error .wrongKind) .ok

/-- The real number that a value is in arithmetic. -/
def asReal (v : Value K) : Except Fault K := v.number >>= Number.toReal

/-- Whether two values without parts are equal, numbers by size. -/
def samePlain : Value K → Value K → Bool
  | null, null => true
  | text s, text t => s == t
  | moment m, moment n => m == n
  | v, w =>
    match v.number?, w.number? with
    | some m, some n => m.compare? n == some .eq
    | _, _ => false

/-- Whether a value counts as true where a condition is asked: all but null, false, zeros and what
is empty. A grid counts as its only entry. -/
def truth : Value K → Except Fault Bool
  | null => .ok false
  | bool b => .ok b
  | int n => .ok (n ≠ 0)
  | real x => .ok !Scalar.isZero x
  | text s => .ok !s.isEmpty
  | moment _ => .ok true
  | list xs | tuple xs => .ok !xs.isEmpty
  | grid g =>
    match g.entries with
    | [x] => .ok !Scalar.isZero x
    | _ => .error .unreadable
  | record fs => .ok !fs.isEmpty

mutual

/-- Whether a value can be looked up among others: lists, grids and records cannot, nor tuples with
them inside. -/
def canBeKey : Value K → Bool
  | list _ | grid _ | record _ => false
  | tuple xs => canAllBeKeys xs
  | _ => true

def canAllBeKeys : List (Value K) → Bool
  | [] => true
  | x :: xs => canBeKey x && canAllBeKeys xs

end

/-- A record's field of a name, `none` if it has none. -/
def field? (fields : List (Value K × Value K)) (name : String) : Option (Value K) :=
  (fields.find? fun f => f.1.samePlain (.text name)).map Prod.snd

end Value
end RobotSoccer
