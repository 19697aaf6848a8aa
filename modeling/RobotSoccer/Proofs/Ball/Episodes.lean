import Mathlib.Data.List.Forall2
import Mathlib.Logic.Function.Basic
import Mathlib.Tactic.ByContra
import RobotSoccer.Proofs.Ball.History

/-! Rolling episodes. Whatever the order in which models that share a generator are called, a curve
angle is drawn once when a ball starts to roll, and it lasts until the ball stops or is reset. -/
namespace RobotSoccer.Ball

/-- Any number of models with the generator that they share. -/
structure Pool (ι K : Type) where
  models : ι → Model K
  generator : Generator K

/-- One call of a run, with the pools before and after it. -/
structure Step (ι K : Type) where
  who : ι
  call : Call K
  before : Pool ι K
  after : Pool ι K

variable {ι K : Type} [Scalar K]

namespace Pool

def fresh (g : Generator K) : Pool ι K := ⟨fun _ => .fresh, g⟩

variable [DecidableEq ι]

def call (s : Pool ι K) (i : ι) : Call K → Except Fault (Pool ι K)
  | .reset => .ok { s with models := Function.update s.models i .fresh }
  | .update p t =>
    match (s.models i).update s.generator p (.int t) with
    | ⟨.error fault, _, _⟩ => .error fault
    | ⟨.ok _, m, g⟩ => .ok ⟨Function.update s.models i m, g⟩

/-- The steps of a run and the pool after it, or the fault of the first call that fails. -/
def play (s : Pool ι K) : List (ι × Call K) → Except Fault (List (Step ι K) × Pool ι K)
  | [] => .ok ([], s)
  | (i, c) :: calls => do
    let s' ← s.call i c
    let (steps, t) ← s'.play calls
    return (⟨i, c, s, s'⟩ :: steps, t)

/-- A run in which no call fails. -/
inductive Plays : Pool ι K → List (Step ι K) → Pool ι K → Prop
  | nil (s : Pool ι K) : Plays s [] s
  | cons {s s' t : Pool ι K} {i : ι} {c : Call K} {steps : List (Step ι K)}
      (answers : s.call i c = .ok s') (tail : Plays s' steps t) :
      Plays s (⟨i, c, s, s'⟩ :: steps) t

end Pool

namespace Step

/-- The model that is called, before the call. -/
def was (e : Step ι K) : Model K := e.before.models e.who

/-- The model that is called, after the call. -/
def is (e : Step ι K) : Model K := e.after.models e.who

/-- The time since the model's last sample, for an update with a new time. -/
def elapsed? (e : Step ι K) : Option Int :=
  match e.call, e.was.sample with
  | .update _ t, some ⟨_, .int u⟩ => if t = u then none else some (t - u)
  | _, _ => none

/-- An update with a new time after which the ball rolls, while it did not before. -/
def starts (e : Step ι K) : Bool :=
  e.elapsed?.isSome && e.was.velocity.isLevelZero && !e.is.velocity.isLevelZero

/-- A reset, or an update with a new time after which the ball does not roll. -/
def ends (e : Step ι K) : Bool :=
  match e.call with
  | .reset => true
  | .update _ _ => e.elapsed?.isSome && e.is.velocity.isLevelZero

/-- The mean and the spread that an update with a new time asks for. -/
def Asks (e : Step ι K) (call : K × K) : Prop :=
  ∃ d x, e.elapsed? = some d ∧ Scalar.ofInt? d = some x ∧ call = (0.0, 0.015 * x / 1000.0)

/-- What the generator returns to an update that asks. -/
def Returns (e : Step ι K) (angle : K) : Prop :=
  ∃ call, e.Asks call ∧ e.before.generator.draw call.1 call.2 = .ok angle

end Step

/-- Between two calls a model is rolling just if its velocity says so. -/
structure Model.Settled (m : Model K) : Prop where
  rolling : m.rolling = !m.velocity.isLevelZero
  time : ∀ last, m.sample = some last → ∃ u, last.time = .int u

theorem Model.settled_fresh : (Model.fresh : Model Double).Settled where
  rolling := by simp [Model.fresh, levelZero_zero]
  time _ h := by simp [Model.fresh] at h

namespace Pool

variable [DecidableEq ι]

theorem call_update {s s' : Pool ι K} {i : ι} {p : Vec3 K} {t : Int}
    (h : s.call i (.update p t) = .ok s') :
    ∃ w m g, (s.models i).update s.generator p (.int t) = ⟨.ok w, m, g⟩ ∧
      s' = ⟨Function.update s.models i m, g⟩ := by
  rcases hu : (s.models i).update s.generator p (.int t) with ⟨fault | w, m, g⟩
  · simp [call, hu] at h
  · exact ⟨w, m, g, rfl, by simpa [call, hu, eq_comm] using h⟩

theorem call_other {s s' : Pool ι K} {i j : ι} {c : Call K} (h : s.call i c = .ok s')
    (other : j ≠ i) : s'.models j = s.models j := by
  cases c with
  | reset =>
    obtain rfl : _ = s' := by simpa [call] using h
    exact Function.update_of_ne other _ _
  | update p t =>
    obtain ⟨w, m, g, -, rfl⟩ := call_update h
    exact Function.update_of_ne other _ _

end Pool

namespace Step

/-- What a call does to the curve angle of its model and to the generator. -/
structure Effect (e : Step ι K) : Prop where
  settled : e.is.Settled
  start : e.starts = true → ∃ call, e.Asks call ∧
    e.before.generator.draw call.1 call.2 = .ok e.is.curveAngle ∧
    e.after.generator = e.before.generator.record call.1 call.2
  quiet : e.starts = false → e.after.generator = e.before.generator ∧
    e.is.curveAngle = if e.ends then 0.0 else e.was.curveAngle

theorem effect_of_reset {e : Step ι Double} (hc : e.call = .reset) (his : e.is = .fresh)
    (hg : e.after.generator = e.before.generator) : e.Effect where
  settled := by rw [his]; exact Model.settled_fresh
  start h := by simp [starts, elapsed?, hc] at h
  quiet _ := by simp [ends, hc, hg, his, Model.fresh]

theorem elapsed?_held {e : Step ι K} (settled : e.was.Settled) {p : Vec3 K} {t : Int}
    (hc : e.call = .update p t) (hs : e.was.since? (.int t) = .ok none) : e.elapsed? = none := by
  rcases hl : e.was.sample with _ | ⟨q, time⟩
  · simp [elapsed?, hc, hl]
  · obtain ⟨u, rfl⟩ := settled.time _ hl
    have old : t = u := by
      by_contra new
      simp [Model.since?_int hl, new] at hs
    simp [elapsed?, hc, hl, old]

/-- At the time of the last sample nothing is drawn, and no episode starts or ends. -/
theorem effect_of_held {e : Step ι K} {p : Vec3 K} {t : Int} (hc : e.call = .update p t)
    (untimed : e.elapsed? = none)
    (his : e.is = { e.was with
      lastElapsed := none, sample := some ⟨p, .int t⟩, rolling := !e.was.velocity.isLevelZero })
    (hg : e.after.generator = e.before.generator) : e.Effect where
  settled := by
    rw [his]
    refine ⟨rfl, fun last hl => ⟨t, ?_⟩⟩
    obtain rfl : (⟨p, .int t⟩ : Sample K) = last := by simpa using hl
    rfl
  start h := by simp [starts, untimed] at h
  quiet _ := by simp [ends, hc, untimed, hg, his]

/-- At a new time the angle is drawn, kept or dropped as the velocity before and after says. -/
theorem effect_of_moved {e : Step ι K} (settled : e.was.Settled) {p v : Vec3 K} {t d : Int}
    {angle : K} (hc : e.call = .update p t) (timed : e.elapsed? = some d)
    (hv : e.was.curve e.before.generator v (.int d) = (.ok angle, e.after.generator))
    (his : e.is = ⟨v, angle, !v.isLevelZero, some ⟨p, .int t⟩, some (.int d)⟩) : e.Effect where
  settled := by
    rw [his]
    refine ⟨rfl, fun last hl => ⟨t, ?_⟩⟩
    obtain rfl : (⟨p, .int t⟩ : Sample K) = last := by simpa using hl
    rfl
  start h := by
    simp only [starts, his, Bool.and_eq_true, Bool.not_eq_true'] at h
    have still : e.was.rolling = false := by simp [settled.rolling, h.1.2]
    obtain ⟨spread, hs, hd, hg⟩ := Model.curve_of_starting h.2 still hv
    obtain ⟨x, hx, rfl⟩ := Model.curveSpread_int hs
    exact ⟨_, ⟨d, x, timed, hx, rfl⟩, by rw [his]; exact hd, hg⟩
  quiet h := by
    cases hz : v.isLevelZero with
    | true =>
      rw [Model.curve_of_standing hz, Prod.mk.injEq, Except.ok.injEq] at hv
      simp [ends, hc, timed, his, hz, ← hv.1, ← hv.2]
    | false =>
      have rolls : e.was.rolling = true := by
        simpa [starts, timed, his, hz, settled.rolling] using h
      rw [Model.curve_of_rolling hz rolls, Prod.mk.injEq, Except.ok.injEq] at hv
      simp [ends, hc, timed, his, hz, ← hv.1, ← hv.2]

theorem effect [DecidableEq ι] {e : Step ι Double} (settled : e.was.Settled)
    (h : e.before.call e.who e.call = .ok e.after) : e.Effect := by
  cases hc : e.call with
  | reset =>
    rw [hc] at h
    have ha := Except.ok.inj h
    exact effect_of_reset hc (by simp [is, ← ha]) (by simp [← ha])
  | update p t =>
    rw [hc] at h
    obtain ⟨w, m, g, hu, ha⟩ := Pool.call_update h
    have his : e.is = m := by simp [is, ha]
    have hg : e.after.generator = g := by simp [ha]
    change e.was.update _ _ _ = _ at hu
    rcases Model.update_answered (by rw [hu]) with hs | ⟨last, elapsed, angle, g', hs, hv, hcurve⟩
    · rw [Model.update_held hs, Update.mk.injEq] at hu
      exact effect_of_held hc (elapsed?_held settled hc hs) (his.trans hu.2.1.symm)
        (hg.trans hu.2.2.symm)
    · obtain ⟨q, u, hl⟩ : ∃ q u, e.was.sample = some ⟨q, .int u⟩ := by
        rcases hl : e.was.sample with _ | ⟨q, time⟩
        · simp [Model.since?_of_no_sample hl] at hs
        · obtain ⟨u, rfl⟩ := settled.time _ hl
          exact ⟨q, u, rfl⟩
      have new : t ≠ u := by
        rintro rfl
        simp [Model.since?_int hl] at hs
      obtain ⟨-, rfl⟩ : (⟨q, .int u⟩ : Sample Double) = last ∧ Number.int (t - u) = elapsed := by
        simpa [Model.since?_int hl, new] using hs
      rw [Model.update_moved hs hv hcurve, Update.mk.injEq] at hu
      refine effect_of_moved (d := t - u) settled hc (by simp [elapsed?, hc, hl, new]) ?_
        (his.trans hu.2.1.symm)
      rw [hcurve, hg, hu.2.2]

end Step

namespace Pool

variable [DecidableEq ι] {s t : Pool ι Double} {steps : List (Step ι Double)}

theorem plays_of_play {calls : List (ι × Call Double)} (h : s.play calls = .ok (steps, t)) :
    Plays s steps t := by
  induction calls generalizing s steps with
  | nil =>
    obtain ⟨rfl, rfl⟩ : [] = steps ∧ s = t := by simpa [play] using h
    exact .nil s
  | cons call calls ih =>
    cases hs : s.call call.1 call.2 with
    | error fault => simp [play, hs, bind, Except.bind] at h
    | ok s' =>
      rcases hp : s'.play calls with fault | ⟨rest, t'⟩
      · simp [play, hs, hp, bind, Except.bind] at h
      · obtain ⟨rfl, rfl⟩ : _ = steps ∧ t' = t := by
          simpa [play, hs, hp, bind, Except.bind, pure, Except.pure] using h
        exact .cons hs (ih hp)

/-- Every model of a pool is settled. -/
def Settled (s : Pool ι K) : Prop := ∀ i, (s.models i).Settled

theorem Settled.call (h : s.Settled) {i : ι} {c : Call Double} (answers : s.call i c = .ok t) :
    t.Settled := by
  intro j
  by_cases who : j = i
  · subst who
    exact (Step.effect (e := ⟨j, c, s, t⟩) (h j) answers).settled
  · rw [call_other answers who]
    exact h j

/-- A run is cut before any of its calls. -/
theorem Plays.split {before after : List (Step ι Double)} {e : Step ι Double}
    (h : Plays s (before ++ e :: after) t) (settled : s.Settled) :
    e.before.Settled ∧ e.before.call e.who e.call = .ok e.after ∧ Plays e.after after t := by
  induction before generalizing s with
  | nil =>
    cases h with
    | cons answers tail => exact ⟨settled, answers, tail⟩
  | cons first before ih =>
    cases h with
    | cons answers tail => exact ih tail (settled.call answers)

theorem Plays.calls (h : Plays s steps t) (settled : s.Settled) :
    ∃ draws, t.generator.calls = s.generator.calls ++ draws ∧
      List.Forall₂ Step.Asks (steps.filter Step.starts) draws := by
  induction h with
  | nil s => exact ⟨[], by simp, by simp⟩
  | @cons s s' t i c steps answers tail ih =>
    obtain ⟨draws, hcalls, hasks⟩ := ih (settled.call answers)
    have effect := Step.effect (e := ⟨i, c, s, s'⟩) (settled i) answers
    cases hs : Step.starts ⟨i, c, s, s'⟩ with
    | true =>
      obtain ⟨call, asks, -, hg⟩ := effect.start hs
      refine ⟨call :: draws, ?_, ?_⟩
      · rw [hcalls, hg]
        simp
      · rw [List.filter_cons_of_pos hs]
        exact .cons asks hasks
    | false =>
      refine ⟨draws, ?_, ?_⟩
      · rw [hcalls, (effect.quiet hs).1]
      · rwa [List.filter_cons_of_neg (by simp [hs])]

/-- The angle of a model that neither starts nor ends an episode stays. -/
theorem Plays.keeps_angle (h : Plays s steps t) (settled : s.Settled) {i : ι}
    (quiet : ∀ f ∈ steps, f.who = i → f.starts = false ∧ f.ends = false) :
    (t.models i).curveAngle = (s.models i).curveAngle := by
  induction h with
  | nil s => rfl
  | @cons s s' t j c steps answers tail ih =>
    rw [ih (settled.call answers) fun f hf => quiet f (by simp [hf])]
    by_cases who : i = j
    · subst who
      obtain ⟨hs, he⟩ := quiet ⟨i, c, s, s'⟩ (by simp) rfl
      have kept := ((Step.effect (e := ⟨i, c, s, s'⟩) (settled i) answers).quiet hs).2
      rw [he] at kept
      exact kept
    · rw [call_other answers who]

/-- After the last episode of a model has ended its angle is zero. The alternative in the premise
carries the induction past a start to the end that follows it. -/
theorem Plays.straight (h : Plays s steps t) (settled : s.Settled) {i : ι}
    (angle : (s.models i).curveAngle = 0.0 ∨ ∃ f ∈ steps, f.who = i ∧ f.ends = true)
    (ended : ∀ before e after, steps = before ++ e :: after → e.who = i → e.starts = true →
      ∃ f ∈ after, f.who = i ∧ f.ends = true) :
    (t.models i).curveAngle = 0.0 := by
  induction h with
  | nil s =>
    rcases angle with zero | ⟨f, hf, -⟩
    · exact zero
    · cases hf
  | @cons s s' t j c steps answers tail ih =>
    have rest : ∀ before e after, steps = before ++ e :: after → e.who = i → e.starts = true →
        ∃ f ∈ after, f.who = i ∧ f.ends = true := fun before e after hsteps =>
      ended (⟨j, c, s, s'⟩ :: before) e after (by rw [hsteps]; rfl)
    refine ih (settled.call answers) ?_ rest
    by_cases who : j = i
    · subst who
      have effect := Step.effect (e := ⟨j, c, s, s'⟩) (settled j) answers
      cases hs : Step.starts ⟨j, c, s, s'⟩ with
      | true => exact Or.inr (ended [] _ steps rfl rfl hs)
      | false =>
        have kept := (effect.quiet hs).2
        cases he : Step.ends ⟨j, c, s, s'⟩ with
        | true => exact Or.inl (by rw [he] at kept; exact kept)
        | false =>
          rw [he] at kept
          rcases angle with zero | ⟨f, hf, hwho, hends⟩
          · exact Or.inl (kept.trans zero)
          · rcases List.mem_cons.mp hf with rfl | hf
            · simp [he] at hends
            · exact Or.inr ⟨f, hf, hwho, hends⟩
    · rcases angle with zero | ⟨f, hf, hwho, hends⟩
      · exact Or.inl (by rw [call_other answers (Ne.symm who)]; exact zero)
      · rcases List.mem_cons.mp hf with rfl | hf
        · exact absurd hwho who
        · exact Or.inr ⟨f, hf, hwho, hends⟩

/-- Over any run of models that share a generator, each start of an episode makes one call of the
generator, in the order of the starts and with the elapsed time of the start; the angle of a model
is what its last start got, until that episode ends, and zero otherwise. A call that starts nothing
draws nothing, and unless it ends an episode it keeps the angle. -/
theorem one_draw_per_episode {g : Generator Double} {calls : List (ι × Call Double)}
    (h : (fresh g).play calls = .ok (steps, t)) :
    (∃ draws, t.generator.calls = g.calls ++ draws ∧
      List.Forall₂ Step.Asks (steps.filter Step.starts) draws) ∧
    (∀ before e after, steps = before ++ e :: after → e.starts = true →
      (∀ f ∈ after, f.who = e.who → f.starts = false ∧ f.ends = false) →
      e.Returns (t.models e.who).curveAngle) ∧
    (∀ i, (∀ before e after, steps = before ++ e :: after → e.who = i → e.starts = true →
        ∃ f ∈ after, f.who = i ∧ f.ends = true) →
      (t.models i).curveAngle = 0.0) ∧
    ∀ e ∈ steps, e.starts = false → e.after.generator = e.before.generator ∧
      (e.ends = false → e.is.curveAngle = e.was.curveAngle) := by
  have settled : (fresh g : Pool ι Double).Settled := fun _ => Model.settled_fresh
  have h := plays_of_play h
  refine ⟨h.calls settled, ?_, ?_, ?_⟩
  · rintro before e after rfl hs quiet
    obtain ⟨there, answers, tail⟩ := h.split settled
    obtain ⟨call, asks, hd, -⟩ := (Step.effect (there e.who) answers).start hs
    refine ⟨call, asks, ?_⟩
    rw [tail.keeps_angle (there.call answers) quiet]
    exact hd
  · exact fun i ended => h.straight settled (Or.inl rfl) ended
  · intro e he hs
    obtain ⟨before, after, rfl⟩ := List.append_of_mem he
    obtain ⟨there, answers, -⟩ := h.split settled
    have quiet := (Step.effect (there e.who) answers).quiet hs
    refine ⟨quiet.1, fun hends => ?_⟩
    have kept := quiet.2
    rw [hends] at kept
    exact kept

/-- Two balls start to roll one after the other; the first one stops and the second one rolls on. -/
def alternatingCalls : List (Bool × Call Double) :=
  [(false, .update ⟨0.0, 0.0, 0.0⟩ 0), (true, .update ⟨0.0, 0.0, 0.0⟩ 0),
    (false, .update ⟨1.0, 0.0, 0.0⟩ 10), (true, .update ⟨0.0, 1.0, 0.0⟩ 20),
    (false, .update ⟨1.0, 0.0, 0.0⟩ 20), (true, .update ⟨0.0, 3.0, 0.0⟩ 40)]

theorem one_draw_per_episode_alternating : ∃ steps t,
    (fresh (.ofScript [.real 1.0, .real 2.0])).play alternatingCalls = .ok (steps, t) ∧
      t.generator.calls.length = (steps.filter Step.starts).length ∧
      (steps.filter Step.starts).map Step.who = [false, true] := by
  have run : ((fresh (.ofScript [.real 1.0, .real 2.0])).play alternatingCalls).toOption.map
      (fun r => (r.1.filter Step.starts).map Step.who) = some [false, true] := by
    decide +kernel
  rcases h : (fresh (.ofScript [.real 1.0, .real 2.0])).play alternatingCalls with
    fault | ⟨steps, t⟩
  · simp [h, Except.toOption] at run
  · obtain ⟨⟨draws, hcalls, hasks⟩, -⟩ := one_draw_per_episode h
    refine ⟨steps, t, rfl, ?_, by simpa [h, Except.toOption] using run⟩
    rw [hcalls, hasks.length_eq]
    rfl

end Pool
end RobotSoccer.Ball
