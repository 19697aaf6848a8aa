import RobotSoccer.Proofs.Ball.Update
import RobotSoccer.Proofs.Outcome

/-! Two models that are fed alike stay alike, whatever they differ in that no update looks at. -/
namespace RobotSoccer

/-- At no time is anything refused but a spread with a minus sign. -/
def Generator.Reliable {K : Type} [Scalar K] (g : Generator K) : Prop :=
  ∀ calls mean spread, Scalar.isNegative spread = false →
    ∃ deviation, ({ g with calls } : Generator K).draw mean spread = .ok deviation

theorem Generator.Reliable.of_script {K : Type} [Scalar K] {g g' : Generator K} (h : g.Reliable)
    (hs : g'.script = g.script) : g'.Reliable := by
  intro calls mean spread hn
  rw [hs]
  exact h calls mean spread hn

theorem Generator.Reliable.agree {K : Type} [Scalar K] {g g' : Generator K} (h : g.Reliable)
    (hs : g'.script = g.script) (mean spread : K) :
    Agree (fun _ _ => True) (g.draw mean spread) (g'.draw mean spread) := by
  cases hn : Scalar.isNegative spread with
  | true =>
    simp only [Generator.draw, hn, if_true]
    exact .error _
  | false =>
    obtain ⟨x, hx⟩ := h g.calls mean spread hn
    obtain ⟨y, hy⟩ := h g'.calls mean spread hn
    rw [← hs] at hy
    exact hx ▸ hy ▸ .ok trivial

/-- Deviations that can be read as reals are drawn reliably. -/
theorem Generator.reliable_ofScript {K : Type} [Scalar K] {script : List (Value K)}
    (nonempty : script ≠ []) (reals : ∀ v ∈ script, ∃ x, v.asReal = .ok x) :
    (Generator.ofScript script).Reliable := by
  intro calls mean spread hn
  have bound : calls.length % script.length < script.length :=
    Nat.mod_lt _ (List.length_pos_iff.mpr nonempty)
  obtain ⟨x, hx⟩ := reals _ (List.getElem_mem bound)
  have hnext : ({ Generator.ofScript script with calls } : Generator K).next? =
      some (script[calls.length % script.length]) := List.getElem?_eq_getElem bound
  refine ⟨mean + spread * x, ?_⟩
  simp only [Generator.draw, hn, hnext, hx]
  rfl

end RobotSoccer

namespace RobotSoccer.Ball

/-- How the positions, velocities and curve angles of two models may differ. -/
structure Likeness (K : Type) [Scalar K] where
  position : Vec3 K → Vec3 K → Prop
  velocity : Vec3 K → Vec3 K → Prop
  angle : K → K → Prop
  rest : velocity Vec3.zero Vec3.zero
  straight : angle 0.0 0.0
  rolls : ∀ {v w}, velocity v w → v.isLevelZero = w.isLevelZero
  between : ∀ {p p' q q'}, position p p' → position q q' → ∀ elapsed,
    Agree velocity (Model.velocityOver (p - q) elapsed) (Model.velocityOver (p' - q') elapsed)

namespace Likeness

variable {K : Type} [Scalar K]

/-- Samples of one time at like positions. -/
def Samples (L : Likeness K) (a b : Sample K) : Prop :=
  L.position a.position b.position ∧ a.time = b.time

structure Models (L : Likeness K) (m m' : Model K) : Prop where
  velocity : L.velocity m.velocity m'.velocity
  angle : L.angle m.curveAngle m'.curveAngle
  rolling : m.rolling = m'.rolling
  sample : Option.Rel L.Samples m.sample m'.sample
  lastElapsed : m.lastElapsed = m'.lastElapsed

variable {L : Likeness K} {m m' : Model K} {g g' : Generator K} {p p' v v' : Vec3 K}

theorem fresh (L : Likeness K) : L.Models .fresh .fresh :=
  ⟨L.rest, L.straight, rfl, .none, rfl⟩

theorem Models.timed (h : L.Models m m') : Option.Rel L.Samples m.timed? m'.timed? := by
  have hs := h.sample
  unfold Model.timed?
  generalize m.sample = a at hs ⊢
  generalize m'.sample = b at hs ⊢
  cases hs with
  | none => exact .none
  | @some a b hab =>
    obtain ⟨q, time⟩ := a
    obtain ⟨q', time'⟩ := b
    obtain rfl : time = time' := hab.2
    cases time <;> first | exact .none | exact .some hab

theorem Models.since (h : L.Models m m') (time : Value K) :
    Agree (Option.Rel fun a b => L.Samples a.1 b.1 ∧ a.2 = b.2) (m.since? time)
      (m'.since? time) := by
  have ht := h.timed
  unfold Model.since?
  generalize m.timed? = a at ht ⊢
  generalize m'.timed? = b at ht ⊢
  cases ht with
  | none => exact .ok .none
  | @some a b hab =>
    obtain ⟨q, time₀⟩ := a
    obtain ⟨q', time₁⟩ := b
    obtain rfl : time₀ = time₁ := hab.2
    refine .bind_same fun same => ?_
    cases same with
    | true => exact .ok .none
    | false =>
      exact .bind_same fun now => .bind_same fun before => .bind_same fun elapsed =>
        .ok (.some ⟨hab, rfl⟩)

/-- Draws that are alike leave angles that are alike and record the same calls. -/
theorem Models.curve (h : L.Models m m') (hv : L.velocity v v') (elapsed : Number K)
    (draws : ∀ spread, Agree L.angle (g.draw 0.0 spread) (g'.draw 0.0 spread)) :
    Agree L.angle (m.curve g v elapsed).1 (m'.curve g' v' elapsed).1 ∧
      ∃ calls, (m.curve g v elapsed).2 = { g with calls := g.calls ++ calls } ∧
        (m'.curve g' v' elapsed).2 = { g' with calls := g'.calls ++ calls } := by
  have hz := L.rolls hv
  cases hl : v'.isLevelZero with
  | true =>
    rw [Model.curve_of_standing (hz.trans hl), Model.curve_of_standing hl]
    exact ⟨.ok L.straight, [], by simp, by simp⟩
  | false =>
    cases hr : m'.rolling with
    | true =>
      rw [Model.curve_of_rolling (hz.trans hl) (h.rolling.trans hr),
        Model.curve_of_rolling hl hr]
      exact ⟨.ok h.angle, [], by simp, by simp⟩
    | false =>
      have hr' := h.rolling.trans hr
      cases hs : (Model.curveSpread elapsed : Except Fault K) with
      | error fault =>
        simp only [Model.curve, hz, hl, hr, hr', hs, Bool.false_eq_true, if_false]
        exact ⟨.error fault, [], by simp, by simp⟩
      | ok spread =>
        simp only [Model.curve, hz, hl, hr, hr', hs, Bool.false_eq_true, if_false]
        exact ⟨draws spread, [(0.0, spread)], rfl, rfl⟩

/-- One update at one time keeps the likeness, answers alike and makes the same draws. -/
theorem Models.update (h : L.Models m m') (hp : L.position p p') (time : Value K)
    (draws : ∀ spread, Agree L.angle (g.draw 0.0 spread) (g'.draw 0.0 spread)) :
    Agree L.velocity (m.update g p time).outcome (m'.update g' p' time).outcome ∧
      L.Models (m.update g p time).model (m'.update g' p' time).model ∧
      ∃ calls, (m.update g p time).generator = { g with calls := g.calls ++ calls } ∧
        (m'.update g' p' time).generator = { g' with calls := g'.calls ++ calls } := by
  have held : L.Models { m with lastElapsed := none } { m' with lastElapsed := none } :=
    ⟨h.velocity, h.angle, h.rolling, h.sample, rfl⟩
  have hs := h.since time
  generalize ha : m.since? time = a at hs
  generalize hb : m'.since? time = b at hs
  cases hs with
  | error fault =>
    rw [Model.update_timeless ha, Model.update_timeless hb]
    exact ⟨.error fault, held, [], by simp, by simp⟩
  | ok hs =>
    cases hs with
    | none =>
      rw [Model.update_held ha, Model.update_held hb]
      refine ⟨.ok h.velocity, ⟨h.velocity, h.angle, ?_, .some ⟨hp, rfl⟩, rfl⟩, [], by simp, by simp⟩
      rw [L.rolls h.velocity]
    | @some a b hab =>
      obtain ⟨last, elapsed⟩ := a
      obtain ⟨last', elapsed'⟩ := b
      obtain ⟨hlast, rfl⟩ : L.Samples last last' ∧ elapsed = elapsed' := hab
      have hv := L.between hp hlast.1 elapsed
      generalize hva : Model.velocityOver (p - last.position) elapsed = va at hv
      generalize hvb : Model.velocityOver (p' - last'.position) elapsed = vb at hv
      cases hv with
      | error fault =>
        rw [Model.update_unmoved ha hva, Model.update_unmoved hb hvb]
        exact ⟨.error fault, held, [], by simp, by simp⟩
      | @ok v v' hv =>
        obtain ⟨hangle, calls, hg, hg'⟩ := h.curve hv elapsed draws
        rcases hc : m.curve g v elapsed with ⟨oa, ga⟩
        rcases hc' : m'.curve g' v' elapsed with ⟨ob, gb⟩
        simp only [hc, hc'] at hangle hg hg'
        cases hangle with
        | error fault =>
          rw [Model.update_undrawn ha hva hc, Model.update_undrawn hb hvb hc']
          exact ⟨.error fault, ⟨hv, h.angle, h.rolling, h.sample, rfl⟩, calls, hg, hg'⟩
        | ok hangle =>
          rw [Model.update_moved ha hva hc, Model.update_moved hb hvb hc']
          refine ⟨.ok hv, ⟨hv, hangle, ?_, .some ⟨hp, rfl⟩, rfl⟩, calls, hg, hg'⟩
          rw [L.rolls hv]

end Likeness
end RobotSoccer.Ball
