import RobotSoccer.Ball.Generator
import RobotSoccer.Geometry.Vector
import RobotSoccer.Value.Order

/-! What one robot knows about the ball between two queries: its velocity, estimated from the last
two positions, and the angle by which its path bends, drawn anew whenever it starts to roll. -/
namespace RobotSoccer.Ball

/-- Where the ball was (mm) at a time (ms). A null time is none. -/
structure Sample (K : Type) where
  position : Vec3 K
  time : Value K

structure Model (K : Type) where
  /-- In mm/s. -/
  velocity : Vec3 K
  curveAngle : K
  /-- Whether the ball moved over the ground at the last update. -/
  rolling : Bool
  sample : Option (Sample K)
  /-- The time between the last two samples, unless the last update kept the velocity. -/
  lastElapsed : Option (Number K)

/-- What an update answers and leaves behind. -/
structure Update (K : Type) where
  outcome : Except Fault (Vec3 K)
  model : Model K
  generator : Generator K

variable {K : Type} [Scalar K]

/-- The spread of the curve angle for each second between two samples, in radians. -/
def curveSpreadPerSecond : K := 0.015

def millisecondsPerSecond : K := 1000.0

namespace Model

def fresh : Model K := ⟨Vec3.zero, 0.0, false, none, none⟩

/-- The last sample with a time. -/
def timed? (m : Model K) : Option (Sample K) :=
  match m.sample with
  | some ⟨_, .null⟩ => none
  | sample => sample

/-- The last sample and the time since then, none without a sample or at its very time. -/
def since? (m : Model K) (time : Value K) : Except Fault (Option (Sample K × Number K)) :=
  match m.timed? with
  | none => .ok none
  | some last =>
    do
      if ← time.same last.time then return none
      else return some (last, ← (← time.number).sub (← last.time.number))

/-- The mean velocity over a step. -/
def velocityOver (step : Vec3 K) (elapsed : Number K) : Except Fault (Vec3 K) := do
  (step.scale millisecondsPerSecond).divide (← elapsed.toReal)

def curveSpread (elapsed : Number K) : Except Fault K := do
  return curveSpreadPerSecond * (← elapsed.toReal) / millisecondsPerSecond

/-- The curve angle after a step to a new velocity, and the generator. A ball that rolls on keeps
its angle, one that stands has none. -/
def curve (m : Model K) (g : Generator K) (velocity : Vec3 K) (elapsed : Number K) :
    Except Fault K × Generator K :=
  if velocity.isLevelZero then (.ok 0.0, g)
  else if m.rolling then (.ok m.curveAngle, g)
  else
    match curveSpread elapsed with
    | .error fault => (.error fault, g)
    | .ok spread => (g.draw 0.0 spread, g.record 0.0 spread)

/-- Takes a position for the sample to come. -/
def settle (m : Model K) (g : Generator K) (position : Vec3 K) (time : Value K) : Update K :=
  ⟨.ok m.velocity,
    { m with sample := some ⟨position, time⟩, rolling := !m.velocity.isLevelZero }, g⟩

/-- Feeds a position at a time and answers the velocity. What is known before a fault stays. -/
def update (m : Model K) (g : Generator K) (position : Vec3 K) (time : Value K) : Update K :=
  let held := { m with lastElapsed := none }
  match m.since? time with
  | .error fault => ⟨.error fault, held, g⟩
  | .ok none => held.settle g position time
  | .ok (some (last, elapsed)) =>
    match velocityOver (position - last.position) elapsed with
    | .error fault => ⟨.error fault, held, g⟩
    | .ok velocity =>
      let moved := { held with velocity, lastElapsed := some elapsed }
      match moved.curve g velocity elapsed with
      | (.error fault, g) => ⟨.error fault, moved, g⟩
      | (.ok curveAngle, g) => { moved with curveAngle }.settle g position time

end Model
end RobotSoccer.Ball
