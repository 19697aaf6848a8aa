import Mathlib.Tactic.ByContra
import Mathlib.Tactic.Push
import RobotSoccer.Proofs.Ball.Update

/-! The velocity estimate in closed form. A model keeps one sample, but what it knows is a function
of all samples since its last reset, and of nothing before. -/
namespace RobotSoccer.Ball

/-- What feeds a model: a position (mm) at an integer time (ms), or a fresh start. -/
inductive Call (K : Type) where
  | update (position : Vec3 K) (time : Int)
  | reset

/-- The samples since the last reset, after those that were there before. -/
def samplesSince {K : Type} (earlier : List (Vec3 K × Int)) :
    List (Call K) → List (Vec3 K × Int)
  | [] => earlier
  | .reset :: calls => samplesSince [] calls
  | .update p t :: calls => samplesSince (earlier ++ [(p, t)]) calls

theorem levelZero_zero : (Vec3.zero : Vec3 Double).isLevelZero = true := by decide +kernel

/-- A split of a longer history either ends in its new sample or lies in the shorter one. -/
theorem snoc_eq_split {α : Type} {xs before after : List α} {x a b : α}
    (h : xs ++ [x] = before ++ a :: b :: after) :
    after = [] ∧ xs = before ++ [a] ∧ x = b ∨
      ∃ rest, after = rest ++ [x] ∧ xs = before ++ a :: b :: rest := by
  rcases List.eq_nil_or_concat after with rfl | ⟨rest, y, rfl⟩
  · rw [show before ++ [a, b] = (before ++ [a]) ++ [b] by simp] at h
    obtain ⟨hs, hx⟩ := List.append_inj' h rfl
    exact Or.inl ⟨rfl, hs, by simpa using hx⟩
  · rw [List.concat_eq_append,
      show before ++ a :: b :: (rest ++ [y]) = (before ++ a :: b :: rest) ++ [y] by simp] at h
    obtain ⟨hs, hx⟩ := List.append_inj' h rfl
    obtain rfl : x = y := by simpa using hx
    exact Or.inr ⟨rest, by simp, hs⟩

/-- A history has one time only, or a last sample whose time is new. -/
theorem constant_or_last_new {α : Type} (samples : List (α × Int)) :
    (∀ a ∈ samples, ∀ b ∈ samples, a.2 = b.2) ∨
      ∃ before q u p t after, samples = before ++ (q, u) :: (p, t) :: after ∧ t ≠ u ∧
        ∀ b ∈ after, b.2 = t := by
  induction samples with
  | nil => simp
  | cons first rest ih =>
    rcases ih with same | ⟨before, q, u, p, t, after, rfl, new, held⟩
    · cases rest with
      | nil => simp
      | cons second rest =>
        by_cases e : second.2 = first.2
        · refine Or.inl ?_
          have all : ∀ b ∈ first :: second :: rest, b.2 = first.2 := by
            intro b hb
            rcases List.mem_cons.mp hb with rfl | hb
            · rfl
            · exact (same b hb second (by simp)).trans e
          exact fun a ha b hb => (all a ha).trans (all b hb).symm
        · exact Or.inr ⟨[], first.1, first.2, second.1, second.2, rest, rfl, e,
            fun b hb => same b (by simp [hb]) second (by simp)⟩
    · exact Or.inr ⟨first :: before, q, u, p, t, after, rfl, new, held⟩

namespace Model

/-- The model and the generator after some calls, or the fault of the first one that fails. -/
def after {K : Type} [Scalar K] (m : Model K) (g : Generator K) :
    List (Call K) → Except Fault (Model K × Generator K)
  | [] => .ok (m, g)
  | .reset :: calls => after .fresh g calls
  | .update p t :: calls =>
    match m.update g p (.int t) with
    | ⟨.error fault, _, _⟩ => .error fault
    | ⟨.ok _, m, g⟩ => m.after g calls

/-- What a model knows after the samples since its last reset. -/
structure Remembers (m : Model Double) (samples : List (Vec3 Double × Int)) : Prop where
  resting : (∀ a ∈ samples, ∀ b ∈ samples, a.2 = b.2) → m.velocity = Vec3.zero
  /-- The velocity is the one over the last step to a new time. -/
  moving : ∀ before q u p t after, samples = before ++ (q, u) :: (p, t) :: after → t ≠ u →
    (∀ b ∈ after, b.2 = t) → ∃ e : Double, Scalar.ofInt? (t - u) = some e ∧
      m.velocity =
        ⟨(p.x - q.x) * 1000.0 / e, (p.y - q.y) * 1000.0 / e, (p.z - q.z) * 1000.0 / e⟩
  timed : ∀ before q u p t, samples = before ++ [(q, u), (p, t)] → t ≠ u →
    m.lastElapsed = some (.int (t - u))
  untimed : (∀ before q u p t, samples = before ++ [(q, u), (p, t)] → t = u) →
    m.lastElapsed = none
  last : m.sample = samples.getLast?.map fun s => ⟨s.1, .int s.2⟩
  state : m.timed? = none ↔ samples = []
  rolling : m.rolling = true ↔
    ¬(Scalar.isZero m.velocity.x = true ∧ Scalar.isZero m.velocity.y = true)

theorem rolling_iff {m : Model Double} (h : m.rolling = !m.velocity.isLevelZero) :
    m.rolling = true ↔
      ¬(Scalar.isZero m.velocity.x = true ∧ Scalar.isZero m.velocity.y = true) := by
  rw [h, Vec3.isLevelZero, Bool.not_eq_true', Bool.and_eq_false_iff, not_and_or,
    Bool.not_eq_true, Bool.not_eq_true]

theorem remembers_fresh : Remembers .fresh [] where
  resting _ := rfl
  moving _ _ _ _ _ _ h := by simp at h
  timed _ _ _ _ _ h := by simp at h
  untimed _ := rfl
  last := rfl
  state := by simp [timed?, fresh]
  rolling := rolling_iff (by simp [fresh, levelZero_zero])

/-- A sample at the time of the last one, or the first of all, keeps the velocity. -/
theorem Remembers.hold {m : Model Double} {samples : List (Vec3 Double × Int)}
    (h : m.Remembers samples) {p : Vec3 Double} {t : Int}
    (old : ∀ before q u, samples = before ++ [(q, u)] → t = u) :
    Remembers { m with
      lastElapsed := none, sample := some ⟨p, .int t⟩, rolling := !m.velocity.isLevelZero }
      (samples ++ [(p, t)]) where
  resting same := h.resting fun a ha b hb => same a (by simp [ha]) b (by simp [hb])
  moving before q u p' t' after hs new held := by
    rcases snoc_eq_split hs with ⟨-, hi, hx⟩ | ⟨rest, rfl, hi⟩
    · obtain ⟨rfl, rfl⟩ := Prod.mk.inj hx
      exact absurd (old before q u hi) new
    · exact h.moving before q u p' t' rest hi new fun b hb => held b (by simp [hb])
  timed before q u p' t' hs new := by
    rcases snoc_eq_split hs with ⟨-, hi, hx⟩ | ⟨rest, hr, -⟩
    · obtain ⟨rfl, rfl⟩ := Prod.mk.inj hx
      exact absurd (old before q u hi) new
    · simp at hr
  untimed _ := rfl
  last := by simp
  state := by simp [timed?]
  rolling := rolling_iff rfl

/-- A sample at a new time sets the velocity. -/
theorem Remembers.move {samples : List (Vec3 Double × Int)}
    {before : List (Vec3 Double × Int)} {q p v : Vec3 Double} {u t : Int} {angle : Double}
    (hs : samples = before ++ [(q, u)]) (new : t ≠ u)
    (hv : velocityOver (p - q) (.int (t - u)) = .ok v) :
    Remembers ⟨v, angle, !v.isLevelZero, some ⟨p, .int t⟩, some (.int (t - u))⟩
      (samples ++ [(p, t)]) where
  resting same := absurd (same (p, t) (by simp) (q, u) (by simp [hs])) new
  moving before' q' u' p' t' after hs' new' held := by
    rcases snoc_eq_split hs' with ⟨-, hi, hx⟩ | ⟨rest, rfl, hi⟩
    · obtain ⟨rfl, rfl⟩ := Prod.mk.inj hx
      obtain ⟨-, rfl, rfl⟩ : before = before' ∧ q = q' ∧ u = u' := by
        simpa using hs.symm.trans hi
      exact velocityOver_int hv
    · -- the last sample is at the time of the new one, for all after the last new time are
      have htt : t = t' := held (p, t) (by simp)
      have hut : u = t' := by
        have mem : (q, u) ∈ (p', t') :: rest := by
          have hl := congrArg List.getLast? (hs.symm.trans hi)
          simp only [List.getLast?_append, List.getLast?_singleton, Option.some_or,
            List.getLast?_cons_cons] at hl
          have hl' : ((p', t') :: rest).getLast? = some (q, u) := by
            cases hg : ((p', t') :: rest).getLast? with
            | none => simp at hg
            | some x => simpa [hg] using hl.symm
          exact List.mem_of_getLast? hl'
        rcases List.mem_cons.mp mem with hx | hx
        · exact (Prod.mk.inj hx).2
        · exact held (q, u) (by simp [hx])
      exact absurd (htt.trans hut.symm) new
  timed before' q' u' p' t' hs' _ := by
    rcases snoc_eq_split hs' with ⟨-, hi, hx⟩ | ⟨rest, hr, -⟩
    · obtain ⟨rfl, rfl⟩ := Prod.mk.inj hx
      obtain ⟨-, rfl, rfl⟩ : before = before' ∧ q = q' ∧ u = u' := by
        simpa using hs.symm.trans hi
      rfl
    · simp at hr
  untimed old := absurd (old before q u p t (by simp [hs])) new
  last := by simp
  state := by simp [timed?]
  rolling := rolling_iff rfl

/-- One update appends one sample. -/
theorem Remembers.update {m : Model Double} {samples : List (Vec3 Double × Int)}
    (h : m.Remembers samples) {g : Generator Double} {p w : Vec3 Double} {t : Int}
    (hu : (m.update g p (.int t)).outcome = .ok w) :
    Remembers (m.update g p (.int t)).model (samples ++ [(p, t)]) := by
  rcases List.eq_nil_or_concat samples with rfl | ⟨before, ⟨q, u⟩, rfl⟩
  · have hn : m.sample = none := h.last
    rw [update_held (since?_of_no_sample hn _)]
    exact h.hold fun before q u hs => by simp at hs
  · have hlast : m.sample = some ⟨q, .int u⟩ := by simpa using h.last
    have hsince := since?_int hlast t
    rcases update_answered hu with hs | ⟨last, elapsed, angle, g', hs, hv, hc⟩
    · have htu : t = u := by
        by_contra new
        simp [hsince, new] at hs
      rw [update_held hs]
      refine h.hold fun before' q' u' hs' => ?_
      obtain ⟨-, -, rfl⟩ : before = before' ∧ q = q' ∧ u = u' := by simpa using hs'
      exact htu
    · have new : t ≠ u := by
        rintro rfl
        simp [hsince] at hs
      obtain ⟨rfl, rfl⟩ : (⟨q, .int u⟩ : Sample Double) = last ∧ Number.int (t - u) = elapsed := by
        simpa [hsince, new] using hs
      rw [update_moved hs hv hc]
      exact Remembers.move List.concat_eq_append new hv

theorem Remembers.after {calls : List (Call Double)} {m m' : Model Double}
    {g g' : Generator Double} {samples : List (Vec3 Double × Int)} (h : m.Remembers samples)
    (hc : m.after g calls = .ok (m', g')) : m'.Remembers (samplesSince samples calls) := by
  induction calls generalizing m g samples with
  | nil =>
    obtain ⟨rfl, rfl⟩ : m = m' ∧ g = g' := by simpa [Model.after] using hc
    exact h
  | cons call calls ih =>
    cases call with
    | reset => exact ih remembers_fresh hc
    | update p t =>
      rcases hm : m.update g p (.int t) with ⟨fault | w, n, g₁⟩
      · simp [Model.after, hm] at hc
      · have hn := h.update (g := g) (p := p) (t := t) (w := w) (by rw [hm])
        rw [hm] at hn
        simp only [Model.after, hm] at hc
        exact ih hn hc

/-- The samples settle every field but the curve angle. -/
theorem Remembers.unique {m m' : Model Double} {samples : List (Vec3 Double × Int)}
    (h : m.Remembers samples) (h' : m'.Remembers samples) :
    { m' with curveAngle := m.curveAngle } = m := by
  have velocity : m'.velocity = m.velocity := by
    rcases constant_or_last_new samples with same | ⟨before, q, u, p, t, after, hs, new, held⟩
    · rw [h.resting same, h'.resting same]
    · obtain ⟨e, he, hv⟩ := h.moving before q u p t after hs new held
      obtain ⟨e', he', hv'⟩ := h'.moving before q u p t after hs new held
      obtain rfl : e = e' := by simpa [he] using he'
      rw [hv, hv']
  have elapsed : m'.lastElapsed = m.lastElapsed := by
    by_cases old : ∀ before q u p t, samples = before ++ [(q, u), (p, t)] → t = u
    · rw [h.untimed old, h'.untimed old]
    · push Not at old
      obtain ⟨before, q, u, p, t, hs, new⟩ := old
      rw [h.timed before q u p t hs new, h'.timed before q u p t hs new]
  have rolling : m'.rolling = m.rolling := by
    rw [Bool.eq_iff_iff, h.rolling, h'.rolling, velocity]
  have sample : m'.sample = m.sample := h'.last.trans h.last.symm
  cases m
  simp_all

/-- What a model knows after any calls is settled by the samples since its last reset: neither the
calls before nor the generator have a part in it. -/
theorem fields_of_history {calls : List (Call Double)} {m : Model Double}
    {g g' : Generator Double} (h : after .fresh g calls = .ok (m, g')) :
    m.Remembers (samplesSince [] calls) ∧
      ∀ calls₂ g₂ g₂' m₂, after .fresh g₂ calls₂ = .ok (m₂, g₂') →
        samplesSince [] calls₂ = samplesSince [] calls →
        { m₂ with curveAngle := m.curveAngle } = m := by
  have known := remembers_fresh.after h
  refine ⟨known, fun calls₂ g₂ g₂' m₂ h₂ same => known.unique ?_⟩
  rw [← same]
  exact remembers_fresh.after h₂

/-- Two samples share the time before the new one, and the last tick is held. -/
def restartedCalls : List (Call Double) :=
  [.update ⟨9.0, 9.0, 9.0⟩ 5, .reset, .update ⟨0.0, 0.0, 0.0⟩ 0, .update ⟨1.0, 0.0, 0.0⟩ 0,
    .update ⟨3.0, 0.0, 0.0⟩ 10, .update ⟨7.0, 0.0, 0.0⟩ 10]

theorem fields_of_history_restarted : ∃ m g,
    after .fresh (.ofScript [.real 1.0]) restartedCalls = .ok (m, g) ∧
      m.velocity = ⟨200.0, 0.0, 0.0⟩ ∧ m.lastElapsed = none := by
  have answers : (after .fresh (.ofScript [.real 1.0]) restartedCalls).toBool = true := by
    decide +kernel
  rcases h : after .fresh (.ofScript [.real 1.0]) restartedCalls with fault | ⟨m, g⟩
  · simp [h, Except.toBool] at answers
  · have known := (fields_of_history h).1
    obtain ⟨e, he, hv⟩ := known.moving [(⟨0.0, 0.0, 0.0⟩, 0)] ⟨1.0, 0.0, 0.0⟩ 0 ⟨3.0, 0.0, 0.0⟩ 10
      [(⟨7.0, 0.0, 0.0⟩, 10)] rfl (by decide) (by simp)
    have ten : (Scalar.ofInt? (10 - 0) : Option Double) = some 10.0 := by decide +kernel
    obtain rfl : e = 10.0 := Option.some.inj (he.symm.trans ten)
    refine ⟨m, g, rfl, hv.trans (by decide +kernel), known.untimed ?_⟩
    intro before q u p t hs
    have ends := congrArg (fun l => (l.reverse.map Prod.snd).take 2) hs
    simp [samplesSince, restartedCalls] at ends
    omega

end Model
end RobotSoccer.Ball
