import RobotSoccer.Body.Basic
import RobotSoccer.Setup

/-! The settings of a run. Numbers are kept as they are given. -/
namespace RobotSoccer

structure Config (K : Type) where
  variant : Variant
  /-- Robot numbers up to this one belong to the first team. -/
  robotsPerTeam : Value K
  /-- The length of a step, in ms. -/
  stepLength : Value K
  /-- The deceleration of the ball on a plane, in m/s². -/
  ballFriction : Value K
  /-- The seed of the random source, null for a fresh one. -/
  seed : Value K
  setupPoses : List (SetupPose K)

variable {K : Type} [Scalar K]

namespace Config

def default : Config K := ⟨.volumetric, .int 20, .real 10.0, .real 0.0, .null, []⟩

/-- The names of the settings. -/
def names : List String :=
  ["engine_variant", "robots_per_team", "step_length_ms", "ball_friction", "seed", "setup_poses"]

/-- The variant of a name. Not all values can be looked up among the names. -/
def readVariant : Value K → Except Fault Variant
  | .text name => (Variant.ofText? name).elim (.error (.unknownVariant name)) .ok
  | given => .error (if given.canBeKey then .unknownVariant given.display else .wrongKind)

/-- The settings of a record, with defaults for those that are absent. -/
def ofFields (fields : List (Value K × Value K)) : Except Fault (Config K) := do
  let standard : Config K := default
  let setting (name : String) (absent : Value K) : Value K :=
    (Value.field? fields name).getD absent
  let variant ← readVariant (setting "engine_variant" (.text standard.variant.text))
  let setupPoses ← SetupPose.listOfValue (setting "setup_poses" (.list []))
  return {
    variant
    robotsPerTeam := setting "robots_per_team" standard.robotsPerTeam
    stepLength := setting "step_length_ms" standard.stepLength
    ballFriction := setting "ball_friction" standard.ballFriction
    seed := setting "seed" standard.seed
    setupPoses }

def require (condition : Except Fault Bool) : Except Fault Unit := do
  if ← condition then return () else .error .settingOutOfRange

/-- Refuses settings out of range: teams and steps have to be positive, friction must not be
negative. -/
def check (c : Config K) : Except Fault (Config K) := do
  require ((Value.int 0).lt? c.robotsPerTeam)
  require ((Value.int 0).lt? c.stepLength)
  require ((Value.int 0).le? c.ballFriction)
  return c

/-- Reads a configuration; unknown names are passed over. -/
def ofValue : Value K → Except Fault (Config K)
  | .record fields => do (← ofFields fields).check
  | _ => .error .missingMember

/-- Makes a configuration of named settings; unknown names are refused. -/
def ofSettings (fields : List (Value K × Value K)) : Except Fault (Config K) := do
  let config ← ofFields fields
  if fields.all fun f => names.any fun name => f.1.samePlain (.text name) then config.check
  else .error .wrongKind

/-- Compares the settings in order, up to the first ones that differ. -/
def same (a b : Config K) : Except Fault Bool := do
  if a.variant ≠ b.variant then return false
  let settings (c : Config K) : List (Value K) :=
    [c.robotsPerTeam, c.stepLength, c.ballFriction, c.seed]
  if ← Value.sameItems (settings a) (settings b) then
    return a.setupPoses.length = b.setupPoses.length &&
      (a.setupPoses.zip b.setupPoses).all fun p => p.1.same p.2
  else return false

end Config
end RobotSoccer
