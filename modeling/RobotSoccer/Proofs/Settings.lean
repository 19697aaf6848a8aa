import Mathlib.Data.List.Nodup
import RobotSoccer.Proofs.Config
import RobotSoccer.Proofs.Setup.Entry

/-! A configuration read from settings: accepted when nothing is wrong with them, else refused for
the first thing that is, in one order of checks that does not depend on the order of the settings. -/
namespace RobotSoccer

open Double

/-- Values by name, each name once. They may be all that a document can hold; grids are not. -/
structure Settings where
  fields : List (String × Value Double)
  nodup : (fields.map Prod.fst).Nodup
  plain : ∀ field ∈ fields, ∀ g, field.2 ≠ .grid g

namespace Settings

def toValue (m : Settings) : Value Double := .record (m.fields.map fun field => (.text field.1, field.2))

def get? (m : Settings) (name : String) : Option (Value Double) :=
  (m.fields.find? fun field => field.1 = name).map Prod.snd

/-- A setting as it is given, or else a default. -/
def setting (m : Settings) (name : String) (absent : Value Double) : Value Double :=
  (m.get? name).getD absent

end Settings

namespace Settings

/-- What is wrong with a variant. Only what can be looked up is an unknown one. -/
def variantFaults : Option (Value Double) → List Fault
  | none | some (.text "volumetric") | some (.text "planar") => []
  | some v => [if v.canBeKey then .unknownVariant v.display else .wrongKind]

/-- What is wrong with setup poses, entry by entry. -/
def setupFaults : Option (Value Double) → List Fault
  | none => []
  | some v =>
    match v.items with
    | .ok items => items.flatMap SetupPose.entryFaults
    | .error _ => [.wrongKind]

/-- What is wrong with a number to which zero has to be in one of these orders. -/
def rangeFaults (orders : List Ordering) (v : Value Double) : List Fault :=
  match v.number? with
  | none => [.wrongKind]
  | some number =>
    if ((Number.int 0).compare? number).any orders.contains then [] else [.settingOutOfRange]

/-- All that is wrong with settings, in the order of the checks. -/
def faults (m : Settings) : List Fault :=
  variantFaults (m.get? "engine_variant") ++ (setupFaults (m.get? "setup_poses") ++
    (rangeFaults [.lt] (m.setting "robots_per_team" (.int 20)) ++
      (rangeFaults [.lt] (m.setting "step_length_ms" (.real 10.0)) ++
        rangeFaults [.lt, .eq] (m.setting "ball_friction" (.real 0.0)))))

end Settings

namespace Settings

variable {m other : Settings} {c : Config Double} {v : Value Double} {name : String}

section Lookup

end Lookup

section Stages

end Stages

section Acceptance

end Acceptance

section Order

end Order

end Settings
end RobotSoccer
