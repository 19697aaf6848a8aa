import RobotSoccer.Value.Basic

/-! A source of normally distributed numbers that follows a script and keeps a record of its
calls. -/
namespace RobotSoccer

structure Generator (K : Type) where
  /-- Deviations in units of the spread, taken in turn and from the start again. -/
  script : List (Value K)
  /-- The mean and the spread of each call so far, refused ones included. -/
  calls : List (K × K)

namespace Generator

variable {K : Type}

def ofScript (script : List (Value K)) : Generator K := ⟨script, []⟩

/-- The deviation that the next call gets. -/
def next? (g : Generator K) : Option (Value K) := g.script[g.calls.length % g.script.length]?

/-- The outcome of a call. A spread with a minus sign is refused, that of a zero included. -/
def draw [Scalar K] (g : Generator K) (mean spread : K) : Except Fault K :=
  if Scalar.isNegative spread then .error .negativeSpread
  else
    match g.next? with
    | some deviation => do return mean + spread * (← deviation.asReal)
    | none => .error .divisionByZero

def record (g : Generator K) (mean spread : K) : Generator K :=
  { g with calls := g.calls ++ [(mean, spread)] }

@[simp] theorem calls_record (g : Generator K) (mean spread : K) :
    (g.record mean spread).calls = g.calls ++ [(mean, spread)] := rfl

@[simp] theorem script_record (g : Generator K) (mean spread : K) :
    (g.record mean spread).script = g.script := rfl

end Generator
end RobotSoccer
