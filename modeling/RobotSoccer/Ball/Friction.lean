import RobotSoccer.Geometry.Vector
import RobotSoccer.Value.Order
import RobotSoccer.Value.Show

/-! Rolling friction: the ball loses speed step by step and never turns round. -/
namespace RobotSoccer.Ball

variable {K : Type} [Scalar K]

/-- The speed that is left after a step, given the product of the friction and the milliseconds. -/
def remainingSpeed (velocity : Vec2 K) (product : K) : K := velocity.length - product / 1000.0

/-- The velocity with a speed that is left, exactly zero once the ball has stopped. -/
def slowed (velocity : Vec2 K) (remaining : K) : Except Fault (Vec2 K) :=
  if Scalar.le remaining 0.0 then .ok Vec2.zero
  else do return velocity.scale (← Scalar.divide remaining velocity.length)

/-- The velocity after one step (ms) under a friction (units of velocity per second). The only entry
of a grid can stop the ball, but it cannot slow it down. -/
def afterStep (velocity : Vec2 K) (friction step : Value K) : Except Fault (Vec2 K) := do
  if ← friction.lt? (.int 0) then .error (.negativeFriction friction.display)
  else
    match ← friction.mul step with
    | .grid ⟨_, [product]⟩ =>
      if Scalar.le (remainingSpeed velocity product) 0.0 then return Vec2.zero
      else .error .wrongKind
    | .grid _ => .error .unreadable
    | product => slowed velocity (remainingSpeed velocity (← product.asReal))

end RobotSoccer.Ball
