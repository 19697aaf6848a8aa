import RobotSoccer.Value.Arithmetic
import RobotSoccer.Value.Order

/-! Robot numbers: the digits at the end of a body's name, and how a team counts its own robots. -/
namespace RobotSoccer

variable {K : Type} [Scalar K]

/-- The part of a name after its last point. -/
def lastToken (name : List Char) : List Char := (name.reverse.takeWhile (· ≠ '.')).reverse

/-- Whether a text is over, but for a newline that may end it. -/
def isOver : List Char → Bool
  | [] | ['\n'] => true
  | _ => false

/-- The row of digits at the start after which the text is over. More digits are tried before
fewer. -/
def digitsToEnd? : List Char → Option (List Char)
  | [] => none
  | c :: rest =>
    if isDigit c then
      match digitsToEnd? rest with
      | some digits => some (c :: digits)
      | none => if isOver rest then some [c] else none
    else none

/-- The first such row of digits, sought from the left. -/
def finalDigits? : List Char → Option (List Char)
  | [] => none
  | c :: rest =>
    match digitsToEnd? (c :: rest) with
    | some digits => some digits
    | none => finalDigits? rest

/-- The number at the end of a hierarchical name such as `field.robots.robot23`. -/
def robotNumber (name : String) : Except Fault Nat :=
  match finalDigits? (lastToken name.toList) with
  | none => .error (.nameWithoutNumber name)
  | some digits =>
    if maxDigits < digits.length then .error .unreadable else .ok (digitsValue digits)

/-- The number of a body whose host gave it any value as its name. -/
def Value.robotNumber : Value K → Except Fault Nat
  | .text name => RobotSoccer.robotNumber name
  | _ => .error .missingMember

/-- Numbers up to `robotsPerTeam` belong to the first team. -/
def inFirstTeam (number : Value K) (robotsPerTeam : Value K) : Except Fault Bool :=
  number.le? robotsPerTeam

/-- The number that a robot has within its team. -/
def teamNumber (number robotsPerTeam : Value K) : Except Fault (Value K) := do
  if ← inFirstTeam number robotsPerTeam then return number
  else number.sub robotsPerTeam

theorem inFirstTeam_int (number robotsPerTeam : Int) :
    inFirstTeam (.int number : Value K) (.int robotsPerTeam) =
      .ok (decide (number ≤ robotsPerTeam)) := Value.le?_int number robotsPerTeam

theorem teamNumber_int (number robotsPerTeam : Int) :
    teamNumber (.int number : Value K) (.int robotsPerTeam) =
      .ok (.int (if number ≤ robotsPerTeam then number else number - robotsPerTeam)) := by
  by_cases h : number ≤ robotsPerTeam <;>
    simp [teamNumber, inFirstTeam_int, Value.sub_int, h, bind, Except.bind, pure, Except.pure]

/-- Sorts the items of the two teams into own and opposing ones. -/
def ownAndOpposing {α : Type} (ownIsFirst : Bool) (first second : α) : α × α :=
  if ownIsFirst then (first, second) else (second, first)

structure TeamMember (K : Type) where
  isFirst : Bool
  number : Nat
  robotsPerTeam : Value K

namespace TeamMember

def ofNumber (number : Nat) (robotsPerTeam : Value K) : Except Fault (TeamMember K) := do
  return ⟨← inFirstTeam (.int number) robotsPerTeam, number, robotsPerTeam⟩

def relativeNumber (t : TeamMember K) : Except Fault (Value K) :=
  teamNumber (.int t.number) t.robotsPerTeam

end TeamMember

example : (robotNumber "RoboCup.robots.robot23").toOption = some 23 := by decide +kernel
example : (robotNumber "a7.b").toOption = none := by decide +kernel
example : (robotNumber "r٠٤\n").toOption = some 4 ∧ (robotNumber "3.").toOption = none := by
  decide +kernel

end RobotSoccer
