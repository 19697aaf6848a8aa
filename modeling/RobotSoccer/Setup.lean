import RobotSoccer.Geometry.Vector
import RobotSoccer.Value.Order
import RobotSoccer.Value.Show

/-! Setup poses: where robots enter the pitch and where they look. -/
namespace RobotSoccer

structure SetupPose (K : Type) where
  player : Int
  /-- In mm, as is the place that the robot looks at. -/
  position : Vec2 K
  turnedTowards : Vec2 K
  deriving DecidableEq

/-- The only configured pose is used for a player that has none of its own. -/
structure Fallback where
  /-- The integer part of the player that was asked for, if it has one. -/
  wanted : Option Int
  used : Int
  deriving DecidableEq

namespace Fallback

/-- The warning, for a player that has an integer part. -/
def text? (f : Fallback) : Option String :=
  f.wanted.map fun wanted =>
    s!"No setup pose for player {wanted}, using the only configured pose (player {f.used})"

end Fallback

variable {K : Type} [Scalar K]

namespace SetupPose

def same (a b : SetupPose K) : Bool :=
  a.player = b.player && a.position.isClose b.position && a.turnedTowards.isClose b.turnedTowards

/-- Reads one entry of a configured list. -/
def ofEntry (entry : Value K) : Except Fault (SetupPose K) := do
  let player ← (← entry.field "player_number").readInt
  let position ← Vec2.ofValue (← entry.field "position")
  let turnedTowards ← Vec2.ofValue (← entry.field "turned_towards")
  return ⟨player, position, turnedTowards⟩

/-- Reads a configured list, in order. The entries of a grid have no fields. -/
def listOfValue (entries : Value K) : Except Fault (List (SetupPose K)) := do
  match entries, ← entries.items with
  | .grid _, _ :: _ => .error .tooShort
  | _, items => items.mapM ofEntry

/-- The first pose of a player. A single pose serves all players. -/
def find (poses : List (SetupPose K)) (player : Value K) :
    Except Fault (SetupPose K × Option Fallback) := do
  match ← poses.findM? fun pose => (Value.int pose.player).same player, poses with
  | some pose, _ => return (pose, none)
  | none, [only] => return (only, some ⟨player.asInt.toOption, only.player⟩)
  | none, poses => .error (.noSetupPose player.display poses.length)

end SetupPose
end RobotSoccer
