import Mathlib
import RobotSoccer.Body.Motion
import RobotSoccer.Proofs.Geometry.Plane
import RobotSoccer.Proofs.Numeric.Number
import RobotSoccer.Proofs.Outcome

/-! The ball on a plane under bends of its path and steps of friction, in exact arithmetic. All that
counts of them is by how much they turn and slow the ball altogether. -/
namespace RobotSoccer

namespace Vec2

noncomputable def speed (v : Vec2 ℝ) : ℝ := √(v.x ^ 2 + v.y ^ 2)

/-- The velocity after turns by an angle and losses of speed, both taken together: none if they take
all of the speed, else turned counter-clockwise and shortened to the speed that is left. -/
noncomputable def rolled (v : Vec2 ℝ) (turn loss : ℝ) : Vec2 ℝ :=
  if v.speed ≤ loss then ⟨0, 0⟩
  else
    let left := (v.speed - loss) / v.speed
    ⟨(v.x * Real.cos turn - v.y * Real.sin turn) * left,
      (v.x * Real.sin turn + v.y * Real.cos turn) * left⟩

variable {v : Vec2 ℝ} {turn loss : ℝ}

theorem speed_eq_length (v : Vec2 ℝ) : v.speed = v.length := v.length_eq.symm

theorem rolled_of_le (h : v.length ≤ loss) : v.rolled turn loss = zero := by
  rw [rolled, speed_eq_length, if_pos h, zero_eq]

theorem rolled_of_lt (h : loss < v.length) :
    v.rolled turn loss = (v.rotate turn).scale ((v.length - loss) / v.length) := by
  rw [rolled, speed_eq_length, if_neg h.not_ge, rotate_eq, scale_eq]

theorem length_rolled (hl : 0 ≤ loss) : (v.rolled turn loss).length = max 0 (v.length - loss) := by
  rcases le_or_gt v.length loss with h | h
  · rw [rolled_of_le h, length_zero, max_eq_left (by linarith)]
  · have hv : 0 < v.length := hl.trans_lt h
    rw [rolled_of_lt h, length_scale _ (div_nonneg (by linarith) hv.le), length_rotate,
      mul_div_cancel₀ _ hv.ne', max_eq_right (by linarith)]

theorem rolled_eq_zero_iff (hl : 0 ≤ loss) : v.rolled turn loss = zero ↔ v.length ≤ loss := by
  rw [← length_eq_zero_iff, length_rolled hl, max_eq_left_iff, sub_nonpos]

theorem rolled_turn (v : Vec2 ℝ) (turn : ℝ) : v.rolled turn 0 = v.rotate turn := by
  rcases v.length_nonneg.eq_or_lt with h | h
  · rw [rolled_of_le h.ge, (length_eq_zero_iff v).mp h.symm, zero_rotate]
  · rw [rolled_of_lt h, sub_zero, div_self h.ne', scale_one]

/-- Further turns and losses add to those before, a stop in between included. -/
theorem rolled_rolled (v : Vec2 ℝ) {turn loss turn' loss' : ℝ} (hl : 0 ≤ loss) (hl' : 0 ≤ loss') :
    (v.rolled turn loss).rolled turn' loss' = v.rolled (turn + turn') (loss + loss') := by
  have hlength : (v.rolled turn loss).length = max 0 (v.length - loss) := length_rolled hl
  -- the ball stops in the first part, in the second one, or not at all
  rcases le_or_gt v.length loss with h | h
  · rw [rolled_of_le h, rolled_of_le (by simpa), rolled_of_le (by linarith)]
  rw [max_eq_right (by linarith)] at hlength
  rcases le_or_gt v.length (loss + loss') with h' | h'
  · rw [rolled_of_le h', rolled_of_le (by linarith)]
  · have hv : v.length ≠ 0 := (hl.trans_lt h).ne'
    have hr : v.length - loss ≠ 0 := (sub_pos.mpr h).ne'
    rw [rolled_of_lt (show loss' < _ by linarith), hlength, rolled_of_lt h, rolled_of_lt h',
      rotate_scale, rotate_rotate, scale_scale]
    congr 1
    field_simp
    ring

end Vec2

namespace Ball

/-- What can be done to a ball that rolls on the plane. -/
inductive Act where
  | bend (angle : ℝ)
  | slow (friction step : Number ℝ)

namespace Act

noncomputable def apply (body : Body ℝ) : Act → Except Fault (Body ℝ)
  | bend angle => Variant.planar.bendPath (.real angle) body
  | slow friction step => Variant.planar.slowBall friction.toValue step.toValue body

def turn : Act → ℝ
  | bend angle => angle
  | slow _ _ => 0

/-- By how much the speed falls while the ball rolls. -/
noncomputable def loss : Act → ℝ
  | bend _ => 0
  | slow friction step => friction.exactly * step.exactly / 1000

/-- Neither friction nor time is negative. -/
def Forward : Act → Prop
  | bend _ => True
  | slow friction step => 0 ≤ friction.exactly ∧ 0 ≤ step.exactly

def isSlow : Act → Bool
  | bend _ => false
  | slow _ _ => true

theorem loss_nonneg {act : Act} (h : act.Forward) : 0 ≤ act.loss := by
  cases act with
  | bend angle => exact le_rfl
  | slow friction step => exact div_nonneg (mul_nonneg h.1 h.2) (by norm_num)

end Act

/-- The angle by which acts turn the ball altogether. -/
def totalTurn (acts : List Act) : ℝ := (acts.map Act.turn).sum

/-- The speed that acts take from the ball altogether, as long as it has any. -/
noncomputable def totalLoss (acts : List Act) : ℝ := (acts.map Act.loss).sum

theorem totalLoss_nonneg {acts : List Act} (forward : ∀ act ∈ acts, act.Forward) :
    0 ≤ totalLoss acts :=
  List.sum_nonneg (by simpa using fun act h => Act.loss_nonneg (forward act h))

end Ball

namespace Body

open Ball

/-- The ball after acts in order. -/
noncomputable def afterActs (b : Body ℝ) (acts : List Act) : Except Fault (Body ℝ) :=
  acts.foldlM Act.apply b

/-- The velocity over the plane after acts in order. -/
noncomputable def velocityAfter (b : Body ℝ) (acts : List Act) : Except Fault (Vec2 ℝ) := do
  (← b.afterActs acts).levelVelocity

/-- A vector that is written as a velocity is read back. -/
theorem levelVelocity_toValue {K : Type} [Scalar K] (b : Body K) (v : Vec2 K) :
    { b with velocity := v.toValue }.levelVelocity = .ok v := rfl

end Body

namespace Ball

theorem afterStep_exactly (v : Vec2 ℝ) {friction step : Number ℝ} (hf : 0 ≤ friction.exactly)
    (hs : 0 ≤ step.exactly) :
    afterStep v friction.toValue step.toValue =
      .ok (v.rolled 0 (friction.exactly * step.exactly / 1000)) := by
  obtain ⟨product, hproduct, hexact⟩ := friction.mul_toValue step
  have hforward : friction.toValue.lt? (.int 0) = .ok false := by
    have h := friction.lt?_toValue (.int 0)
    rwa [decide_eq_false (by simpa [Number.exactly] using hf)] at h
  have hslowed : slowed v (remainingSpeed v product.exactly) =
      .ok (v.rolled 0 (friction.exactly * step.exactly / 1000)) := by
    rw [← hexact]
    have hloss : 0 ≤ product.exactly := hexact ▸ mul_nonneg hf hs
    have hremaining : remainingSpeed v product.exactly = v.length - product.exactly / 1000 := by
      rw [remainingSpeed, Exact.literal]
      norm_num
    rw [slowed, hremaining]
    rcases le_or_gt v.length (product.exactly / 1000) with h | h
    · rw [if_pos (Exact.le_iff.mpr (by simpa using h)), Vec2.rolled_of_le h]
    · have hlength : Scalar.isZero v.length = false := by
        rw [Scalar.isZero, ← Bool.not_eq_true, Exact.eq_iff, Exact.literal_zero]
        exact ((div_nonneg hloss (by norm_num)).trans_lt h).ne'
      rw [if_neg (by rw [Exact.le_iff, Exact.literal_zero]; linarith), Vec2.rolled_of_lt h,
        Vec2.rotate_zero, Scalar.divide, hlength]
      rfl
  rw [afterStep, hforward, hproduct]
  cases product <;> exact hslowed

/-- An act turns and slows the ball by its own share and changes nothing else. -/
theorem Act.apply_rolled {b : Body ℝ} {v : Vec2 ℝ} {act : Act} (hv : b.levelVelocity = .ok v)
    (forward : act.Forward) :
    act.apply b = .ok { b with velocity := (v.rolled act.turn act.loss).toValue } := by
  cases act with
  | bend angle =>
    rw [apply, Variant.bendPath, hv, turn, loss, Vec2.rolled_turn]
    rfl
  | slow friction step =>
    rw [apply, Variant.slowBall, hv, turn, loss]
    change (do return { b with velocity := (← afterStep v _ _).toValue }) = _
    rw [afterStep_exactly v forward.1 forward.2]
    rfl

/-- A body after acts differs at most in its velocity, which is the first one turned and slowed by
all of them together. -/
theorem afterActs_rolled {b : Body ℝ} {v : Vec2 ℝ} {acts : List Act}
    (hv : b.levelVelocity = .ok v) (forward : ∀ act ∈ acts, act.Forward) :
    ∃ velocity, b.afterActs acts = .ok { b with velocity } ∧
      { b with velocity }.levelVelocity = .ok (v.rolled (totalTurn acts) (totalLoss acts)) := by
  -- each act hands its own velocity on to the rest, and the shares of all acts add up
  induction acts generalizing b v with
  | nil => exact ⟨b.velocity, rfl, by simpa [totalTurn, totalLoss, Vec2.rolled_turn] using hv⟩
  | cons act acts ih =>
    rw [List.forall_mem_cons] at forward
    obtain ⟨velocity, hafter, hread⟩ :=
      ih (b.levelVelocity_toValue (v.rolled act.turn act.loss)) forward.2
    refine ⟨velocity, ?_, ?_⟩
    · rw [Body.afterActs, List.foldlM_cons, Act.apply_rolled hv forward.1]
      exact hafter
    · rw [Vec2.rolled_rolled v (Act.loss_nonneg forward.1) (totalLoss_nonneg forward.2)] at hread
      simpa [totalTurn, totalLoss] using hread

theorem velocityAfter_eq {b : Body ℝ} {v : Vec2 ℝ} {acts : List Act}
    (hv : b.levelVelocity = .ok v) (forward : ∀ act ∈ acts, act.Forward) :
    b.velocityAfter acts = .ok (v.rolled (totalTurn acts) (totalLoss acts)) := by
  obtain ⟨velocity, hafter, hread⟩ := afterActs_rolled hv forward
  rw [Body.velocityAfter, hafter]
  exact hread

theorem velocityAfter_append {b : Body ℝ} {v : Vec2 ℝ} {before after : List Act}
    (hv : b.levelVelocity = .ok v) (forward : ∀ act ∈ before ++ after, act.Forward) :
    ∃ w, b.velocityAfter before = .ok w ∧
      b.velocityAfter (before ++ after) = .ok (w.rolled (totalTurn after) (totalLoss after)) := by
  have hbefore : ∀ act ∈ before, act.Forward := fun act h => forward act (by simp [h])
  have hafter : ∀ act ∈ after, act.Forward := fun act h => forward act (by simp [h])
  refine ⟨_, velocityAfter_eq hv hbefore, ?_⟩
  rw [velocityAfter_eq hv forward,
    Vec2.rolled_rolled v (totalLoss_nonneg hbefore) (totalLoss_nonneg hafter)]
  simp [totalTurn, totalLoss]

/-- Steps of friction, each given by its friction and its time. -/
def slowSteps (parts : List (Number ℝ × Number ℝ)) : List Act :=
  parts.map fun part => .slow part.1 part.2

theorem totalTurn_slowSteps (parts : List (Number ℝ × Number ℝ)) :
    totalTurn (slowSteps parts) = 0 := by
  simp [totalTurn, slowSteps, Act.turn, Function.comp_def]

theorem totalLoss_slowSteps (parts : List (Number ℝ × Number ℝ)) :
    totalLoss (slowSteps parts) =
      (parts.map fun part => part.1.exactly * part.2.exactly).sum / 1000 := by
  simp only [totalLoss, slowSteps, List.map_map, Function.comp_def, Act.loss, div_eq_mul_inv,
    List.sum_map_mul_right]

theorem totalLoss_uniform {acts : List Act} {c : ℝ}
    (uniform : ∀ friction step, Act.slow friction step ∈ acts →
      friction.exactly * step.exactly = c) :
    totalLoss acts = acts.countP Act.isSlow * (c / 1000) := by
  induction acts with
  | nil => simp [totalLoss]
  | cons act acts ih =>
    have hacts := ih fun friction step h => uniform friction step (by simp [h])
    cases act with
    | bend angle => simpa [totalLoss, Act.loss, Act.isSlow] using hacts
    | slow friction step =>
      have hact := uniform friction step (by simp)
      rw [totalLoss] at hacts ⊢
      rw [List.map_cons, List.sum_cons, hacts, Act.loss, hact,
        List.countP_cons_of_pos (by rfl)]
      push_cast
      ring

section

variable {b : Body ℝ} {v : Vec2 ℝ}

theorem velocityAfter_perm {acts acts' : List Act} (hv : b.levelVelocity = .ok v)
    (forward : ∀ act ∈ acts, act.Forward) (hperm : acts'.Perm acts) :
    b.velocityAfter acts' = b.velocityAfter acts := by
  have forward' : ∀ act ∈ acts', act.Forward := fun act h => forward act (hperm.mem_iff.mp h)
  have hturns : totalTurn acts' = totalTurn acts := (hperm.map _).sum_eq
  have hlosses : totalLoss acts' = totalLoss acts := (hperm.map _).sum_eq
  rw [velocityAfter_eq hv forward', velocityAfter_eq hv forward, hturns, hlosses]

/-- A step of friction can be taken in parts, also where the ball stops within one of them. -/
theorem velocityAfter_split {before after : List Act} {friction step : Number ℝ}
    {parts : List (Number ℝ × Number ℝ)} (hv : b.levelVelocity = .ok v)
    (forward : ∀ act ∈ before ++ .slow friction step :: after, act.Forward)
    (hparts : ∀ act ∈ slowSteps parts, act.Forward)
    (hsum : (parts.map fun part => part.1.exactly * part.2.exactly).sum =
      friction.exactly * step.exactly) :
    b.velocityAfter (before ++ slowSteps parts ++ after) =
      b.velocityAfter (before ++ .slow friction step :: after) := by
  have hall : ∀ act ∈ before ++ slowSteps parts ++ after, act.Forward := by
    intro act h
    rcases List.mem_append.mp h with h | h
    · rcases List.mem_append.mp h with h | h
      · exact forward act (by simp [h])
      · exact hparts act h
    · exact forward act (by simp [h])
  have hturns := totalTurn_slowSteps parts
  have hlosses := totalLoss_slowSteps parts
  rw [velocityAfter_eq hv hall, velocityAfter_eq hv forward]
  rw [hsum] at hlosses
  simp only [totalTurn, totalLoss] at hturns hlosses ⊢
  simp [hturns, hlosses, Act.turn, Act.loss]

theorem speed_le_of_append {before after : List Act} (hv : b.levelVelocity = .ok v)
    (forward : ∀ act ∈ before ++ after, act.Forward) :
    ∃ w w', b.velocityAfter before = .ok w ∧ b.velocityAfter (before ++ after) = .ok w' ∧
      w'.length ≤ w.length ∧ (w = Vec2.zero → w' = Vec2.zero) := by
  have hafter : 0 ≤ totalLoss after := totalLoss_nonneg fun act h => forward act (by simp [h])
  obtain ⟨w, hbefore, hboth⟩ := velocityAfter_append hv forward
  refine ⟨w, _, hbefore, hboth, ?_, ?_⟩
  · rw [Vec2.length_rolled hafter]
    exact max_le w.length_nonneg (by linarith)
  · rintro rfl
    exact Vec2.rolled_of_le (by simpa using hafter)

theorem stopped_iff {acts : List Act} {c : ℝ} (hv : b.levelVelocity = .ok v)
    (forward : ∀ act ∈ acts, act.Forward) (hc : 0 < c)
    (uniform : ∀ friction step, .slow friction step ∈ acts →
      friction.exactly * step.exactly = c) :
    b.velocityAfter acts = .ok Vec2.zero ↔
      ⌈1000 * v.length / c⌉₊ ≤ acts.countP Act.isSlow := by
  rw [velocityAfter_eq hv forward, Except.ok.injEq,
    Vec2.rolled_eq_zero_iff (totalLoss_nonneg forward), totalLoss_uniform uniform, Nat.ceil_le,
    div_le_iff₀ hc]
  constructor <;> intro h <;> linarith

end

/-- The velocity of a ball on the plane after any bends and steps of friction. It depends on their
total turn and total loss only, so that neither their order nor a step's parts matter; the speed
never grows, a ball at rest stays at rest, and steps of one size stop the ball after the number of
them that its speed takes. -/
theorem rolling_closed_form {b : Body ℝ} {v : Vec2 ℝ} {acts : List Act}
    (hv : b.levelVelocity = .ok v) (forward : ∀ act ∈ acts, act.Forward) :
    (∃ velocity, b.afterActs acts = .ok { b with velocity }) ∧
    b.velocityAfter acts = .ok (v.rolled (totalTurn acts) (totalLoss acts)) ∧
    (v.rolled (totalTurn acts) (totalLoss acts)).speed = max 0 (v.speed - totalLoss acts) ∧
    (∀ acts', acts'.Perm acts → b.velocityAfter acts' = b.velocityAfter acts) ∧
    (∀ before friction step after parts, acts = before ++ .slow friction step :: after →
      (∀ act ∈ slowSteps parts, act.Forward) →
      (parts.map fun part => part.1.exactly * part.2.exactly).sum =
        friction.exactly * step.exactly →
      b.velocityAfter (before ++ slowSteps parts ++ after) = b.velocityAfter acts) ∧
    (∀ before after, acts = before ++ after → ∃ w w', b.velocityAfter before = .ok w ∧
      b.velocityAfter acts = .ok w' ∧ w'.speed ≤ w.speed ∧ (w = ⟨0, 0⟩ → w' = ⟨0, 0⟩)) ∧
    (∀ c > 0, (∀ friction step, .slow friction step ∈ acts →
        friction.exactly * step.exactly = c) →
      (b.velocityAfter acts = .ok ⟨0, 0⟩ ↔
        ⌈1000 * v.speed / c⌉₊ ≤ acts.countP Act.isSlow)) := by
  simp only [Vec2.speed_eq_length, ← Vec2.zero_eq]
  refine ⟨?_, velocityAfter_eq hv forward, Vec2.length_rolled (totalLoss_nonneg forward),
    fun acts' => velocityAfter_perm hv forward, ?_, ?_, fun c => stopped_iff hv forward⟩
  · obtain ⟨velocity, hafter, -⟩ := afterActs_rolled hv forward
    exact ⟨velocity, hafter⟩
  · rintro before friction step after parts rfl
    exact velocityAfter_split hv forward
  · rintro before after rfl
    exact speed_le_of_append hv forward

/-- A ball on the plane with a speed of five. -/
noncomputable def rollingBall : Body ℝ :=
  ⟨.planar, .null, .null, .null, (⟨3, 4⟩ : Vec2 ℝ).toValue, 0, 0⟩

/-- Two steps of friction with a bend in between. -/
noncomputable def twoSteps : List Act :=
  [.slow (.int 2) (.int 1000), .bend (Real.pi / 2), .slow (.int 2) (.int 1000)]

/-- A ball of speed five that loses two a step has turned to the left and slowed to a speed of one
after two steps, and stops in the third. -/
theorem rolling_closed_form_stopped :
    rollingBall.velocityAfter (twoSteps ++ [.slow (.int 2) (.int 1000)]) = .ok ⟨0, 0⟩ ∧
    rollingBall.velocityAfter twoSteps = .ok ⟨-(4 / 5), 3 / 5⟩ := by
  have hspeed : (⟨3, 4⟩ : Vec2 ℝ).speed = 5 := by
    rw [Vec2.speed, show (3 : ℝ) ^ 2 + 4 ^ 2 = 5 ^ 2 by norm_num]
    exact Real.sqrt_sq (by norm_num)
  have hread : rollingBall.levelVelocity = .ok ⟨3, 4⟩ := rfl
  have hcount : ⌈1000 * (⟨3, 4⟩ : Vec2 ℝ).speed / 2000⌉₊ = 3 := by
    rw [hspeed, Nat.ceil_eq_iff (by norm_num)]
    norm_num
  have forward : ∀ act ∈ twoSteps ++ [.slow (.int 2) (.int 1000)], act.Forward := by
    simp [twoSteps, Act.Forward, Number.exactly]
  have forward' : ∀ act ∈ twoSteps, act.Forward := fun act h => forward act (by simp [h])
  have uniform : ∀ friction step,
      Act.slow friction step ∈ twoSteps ++ [.slow (.int 2) (.int 1000)] →
        friction.exactly * step.exactly = 2000 := by
    intro friction step h
    obtain ⟨rfl, rfl⟩ : friction = .int 2 ∧ step = .int 1000 := by simpa [twoSteps] using h
    norm_num [Number.exactly]
  have hturn : totalTurn twoSteps = Real.pi / 2 := by simp [totalTurn, twoSteps, Act.turn]
  have hloss : totalLoss twoSteps = 4 := by
    norm_num [totalLoss, twoSteps, Act.loss, Number.exactly]
  obtain ⟨-, -, -, -, -, -, stops⟩ := rolling_closed_form hread forward
  obtain ⟨-, closed, -⟩ := rolling_closed_form hread forward'
  constructor
  · rw [stops 2000 (by norm_num) uniform, hcount]
    simp [twoSteps, List.countP_cons, Act.isSlow]
  · rw [closed, hturn, hloss, Vec2.rolled, hspeed, if_neg (by norm_num), Real.cos_pi_div_two,
      Real.sin_pi_div_two]
    norm_num

end Ball
end RobotSoccer
