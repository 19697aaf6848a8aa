import RobotSoccer.Team.Number

/-! The robots of a scene, found by their names and split by team. -/
namespace RobotSoccer

inductive GroupName where
  | robots | extras
  deriving DecidableEq

namespace GroupName

def text : GroupName → String
  | robots => "RoboCup.robots"
  | extras => "RoboCup.extras"

def ofText? (name : String) : Option GroupName :=
  if name = robots.text then some robots
  else if name = extras.text then some extras
  else none

end GroupName

/-- Bodies in the order of the scene. A group that is not present is not found, whatever its
members. -/
structure Group (β : Type) where
  present : Bool
  members : List β

structure Scene (β : Type) where
  robots : Group β
  extras : Group β

namespace Scene

variable {β : Type}

def group (scene : Scene β) : GroupName → Group β
  | .robots => scene.robots
  | .extras => scene.extras

def members (scene : Scene β) (name : GroupName) : Except Fault (List β) :=
  let group := scene.group name
  if group.present then .ok group.members else .error (.missingGroup name.text)

def addMember (scene : Scene β) (name : GroupName) (body : β) : Scene β :=
  let add (g : Group β) : Group β := { g with members := g.members ++ [body] }
  match name with
  | .robots => { scene with robots := add scene.robots }
  | .extras => { scene with extras := add scene.extras }

end Scene

structure Numbered (β : Type) where
  number : Nat
  body : β
  deriving DecidableEq

/-- The other robots of a scene, each team in the order of the scene. -/
structure Roster (β : Type) where
  firstTeam : List (Numbered β)
  secondTeam : List (Numbered β)
  deriving DecidableEq

namespace Roster

variable {β K : Type} [Scalar K]

def empty : Roster β := ⟨[], []⟩

def append (r s : Roster β) : Roster β :=
  ⟨r.firstTeam ++ s.firstTeam, r.secondTeam ++ s.secondTeam⟩

instance : Append (Roster β) := ⟨append⟩

def size (r : Roster β) : Nat := r.firstTeam.length + r.secondTeam.length

/-- The roster of one body, empty if the body carries the own number. -/
def ofBody (nameOf : β → Value K) (own robotsPerTeam : Value K) (body : β) :
    Except Fault (Roster β) := do
  let number ← (nameOf body).robotNumber
  if ← (Value.int number).same own then return empty
  else if ← inFirstTeam (.int number) robotsPerTeam then return ⟨[⟨number, body⟩], []⟩
  else return ⟨[], [⟨number, body⟩]⟩

/-- The roster of bodies in order, or the fault of the first body that has one. -/
def ofBodies (nameOf : β → Value K) (own robotsPerTeam : Value K) :
    List β → Except Fault (Roster β)
  | [] => .ok empty
  | body :: rest => do
    let first ← ofBody nameOf own robotsPerTeam body
    return first ++ (← ofBodies nameOf own robotsPerTeam rest)

/-- The robots of both groups except those with the own number. -/
def ofScene (nameOf : β → Value K) (scene : Scene β) (own robotsPerTeam : Value K) :
    Except Fault (Roster β) := do
  let robots ← ofBodies nameOf own robotsPerTeam (← scene.members .robots)
  let extras ← ofBodies nameOf own robotsPerTeam (← scene.members .extras)
  return robots ++ extras

end Roster
end RobotSoccer
