import RobotSoccer.Config
import RobotSoccer.Proofs.Numeric.Toward
import RobotSoccer.Proofs.Outcome

/-! What a configuration is checked for, and what that says of doubles. -/
namespace RobotSoccer

open Double

variable {data : Value Double} {c d : Config Double}

theorem Config.require_eq_ok {condition : Except Fault Bool} {u : Unit} :
    Config.require condition = .ok u ↔ condition = .ok true := by
  cases condition with
  | error fault => exact ⟨nofun, nofun⟩
  | ok b =>
    cases b with
    | false => exact ⟨nofun, nofun⟩
    | true => exact ⟨fun _ => rfl, fun _ => rfl⟩

/-- A configuration passes unchanged if it is in range. -/
theorem Config.check_eq_ok : c.check = .ok d ↔ c = d ∧
    (Value.int 0).lt? c.robotsPerTeam = .ok true ∧ (Value.int 0).lt? c.stepLength = .ok true ∧
      (Value.int 0).le? c.ballFriction = .ok true := by
  constructor
  · intro h
    obtain ⟨_, hteam, h⟩ := ok_of_bind h
    obtain ⟨_, hstep, h⟩ := ok_of_bind h
    obtain ⟨_, hfriction, h⟩ := ok_of_bind h
    cases h
    exact ⟨rfl, require_eq_ok.mp hteam, require_eq_ok.mp hstep, require_eq_ok.mp hfriction⟩
  · rintro ⟨rfl, hteam, hstep, hfriction⟩
    rw [check, hteam, hstep, hfriction]
    rfl

theorem Config.check_of_value (h : Config.ofValue data = .ok c) : c.check = .ok c := by
  cases data with
  | record fields =>
    obtain ⟨d, -, h⟩ := ok_of_bind h
    obtain ⟨rfl, -⟩ := check_eq_ok.mp h
    exact h
  | _ => cases h

theorem Value.zero_lt?_real (x : Double) :
    (Value.int 0).lt? (.real x) = .ok (Scalar.lt 0.0 x) := by
  change Except.ok ((Double.compareInt? x 0).map Ordering.swap == some .lt) = _
  rw [swap_compareInt?_zero]
  rfl

theorem Value.zero_le?_real (x : Double) :
    (Value.int 0).le? (.real x) = .ok (Scalar.le 0.0 x) := by
  change Except.ok ((Double.compareInt? x 0).map Ordering.swap == some .lt ||
    (Double.compareInt? x 0).map Ordering.swap == some .eq) = _
  rw [swap_compareInt?_zero]
  rfl

end RobotSoccer
