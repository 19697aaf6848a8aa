import RobotSoccer.Proofs.Numeric.Root
import RobotSoccer.Proofs.Numeric.Toward
import RobotSoccer.Session.Command

/-! Steps of friction on doubles. Whatever a step takes from the speed, what is left is rounded to
no more than there was, so that the velocity goes toward zero and never past it. -/
namespace RobotSoccer

open Double

namespace Vec2

/-- A velocity with a finite speed. -/
structure IsFinite (v : Vec2 Double) : Prop where
  x : v.x.isFinite = true
  y : v.y.isFinite = true
  length : v.length.isFinite = true

/-- From one velocity on the way to zero in both components. -/
structure TowardZero (v w : Vec2 Double) : Prop where
  x : v.x.TowardZero w.x
  y : v.y.TowardZero w.y

namespace TowardZero

variable {u v w : Vec2 Double}

theorem refl (h : v.IsFinite) : v.TowardZero v := ⟨.refl h.x, .refl h.y⟩

theorem trans (h : u.TowardZero v) (h' : v.TowardZero w) : u.TowardZero w :=
  ⟨h.x.trans h'.x, h.y.trans h'.y⟩

theorem isFinite (h : v.TowardZero w) (hv : v.IsFinite) : w.IsFinite :=
  ⟨h.x.finite, h.y.finite,
    isFinite_hypot_mono h.x.finite h.y.finite hv.x hv.y h.x.shorter h.y.shorter hv.length⟩

theorem to_zero (v : Vec2 Double) : v.TowardZero Vec2.zero := by
  rw [Vec2.zero]
  change TowardZero v ⟨(0.0 : Double), (0.0 : Double)⟩
  rw [literal_zero]
  exact ⟨.to_zero _ _, .to_zero _ _⟩

theorem scale {r : Double} (hv : v.IsFinite) (hr : r.isFinite = true) (low : 0 ≤ r.toRat)
    (high : r.toRat ≤ 1) : v.TowardZero (v.scale r) :=
  ⟨.mul hv.x hr low high, .mul hv.y hr low high⟩

end TowardZero
end Vec2

namespace Ball

variable {v : Vec2 Double} {product friction step : Double}

/-- A step leaves no more speed than there was, or takes an infinite one. -/
theorem remainingSpeed_le (hv : v.IsFinite) (h : Scalar.le 0.0 product = true) :
    remainingSpeed v product = infinite true ∨ (remainingSpeed v product).isFinite = true ∧
      (remainingSpeed v product).toRat ≤ v.length.toRat := by
  have speed : 0 ≤ v.length.toRat := toRat_nonneg (isNegative_hypot _ _)
  have loss : Scalar.le 0.0 (product / 1000.0) = true :=
    nonneg_div h (by decide +kernel) (by decide +kernel)
  unfold remainingSpeed
  rcases nonneg_iff.mp loss with heq | ⟨hfinite, nonneg⟩
  · rw [heq]
    exact .inl (sub_infinite hv.length)
  · rw [sub_eq hv.length hfinite]
    obtain ⟨hleft, -, high⟩ := round_between (q := v.length.toRat - (product / 1000.0).toRat)
      (l := -(product / 1000.0)) (by rwa [isFinite_neg]) hv.length
      (by rw [toRat_neg]; linarith) (by linarith)
      (v.length.isNegative && !(product / 1000.0).isNegative)
    exact .inr ⟨hleft, high⟩

/-- Speed is left if it is neither zero nor less: it is part of the speed that there was, which is
no zero then. -/
theorem remainingSpeed_pos (hv : v.IsFinite) (h : Scalar.le 0.0 product = true)
    (hpos : ¬Scalar.le (remainingSpeed v product) 0.0 = true) :
    (remainingSpeed v product).isFinite = true ∧ 0 < (remainingSpeed v product).toRat ∧
      (remainingSpeed v product).toRat ≤ v.length.toRat := by
  rcases remainingSpeed_le hv h with heq | ⟨hfinite, hle⟩
  · rw [heq] at hpos
    exact absurd (by decide +kernel) hpos
  · rw [literal_zero, le_iff hfinite (isFinite_zero false), toRat_zero, not_le] at hpos
    exact ⟨hfinite, hpos, hle⟩

/-- A step of friction that takes a number of speed, not below zero, has a result on the way to
zero, and stops the ball when no speed is left. -/
theorem slowed_toward (hv : v.IsFinite) (h : Scalar.le 0.0 product = true) :
    ∃ w, slowed v (remainingSpeed v product) = .ok w ∧ v.TowardZero w ∧
      (Scalar.le (remainingSpeed v product) 0.0 = true → w = Vec2.zero) := by
  by_cases hstop : Scalar.le (remainingSpeed v product) 0.0 = true
  · exact ⟨Vec2.zero, if_pos hstop, .to_zero v, fun _ => rfl⟩
  · obtain ⟨hfinite, hpos, hle⟩ := remainingSpeed_pos hv h hstop
    have speed : v.length.toRat ≠ 0 := (hpos.trans_le hle).ne'
    have moving : Scalar.isZero v.length = false := by
      rw [scalar_isZero, ← Bool.not_eq_true, isZero_iff hv.length]
      exact speed
    have ratio : (remainingSpeed v product / v.length).isFinite = true ∧
        0 ≤ (remainingSpeed v product / v.length).toRat ∧
        (remainingSpeed v product / v.length).toRat ≤ 1 := by
      have one : (1.0 : Double).toRat = 1 := by decide +kernel
      rw [div_eq hfinite hv.length speed, ← one, ← toRat_zero false]
      refine round_between (isFinite_zero false) (by decide +kernel) ?_ ?_ _
      · rw [toRat_zero]
        exact (div_pos hpos (hpos.trans_le hle)).le
      · rw [one]
        exact div_le_one_of_le₀ hle (hpos.le.trans hle)
    refine ⟨v.scale (remainingSpeed v product / v.length), ?_,
      .scale hv ratio.1 ratio.2.1 ratio.2.2, fun h => absurd h hstop⟩
    rw [slowed, if_neg hstop, Scalar.divide, moving]
    rfl

theorem lt?_zero (friction : Double) :
    (Value.real friction).lt? (.int 0) = .ok (Scalar.lt friction 0.0) := by
  change Except.ok (Double.compareInt? friction 0 == some .lt) = _
  rw [compareInt?_zero]
  rfl

theorem afterStep_real (v : Vec2 Double) (friction step : Double) :
    afterStep v (.real friction) (.real step) =
      if Scalar.lt friction 0.0 then .error (.negativeFriction (Value.real friction).display)
      else slowed v (remainingSpeed v (friction * step)) := by
  rw [afterStep, lt?_zero]
  cases Scalar.lt friction 0.0 <;> rfl

theorem afterStep_toward (hv : v.IsFinite) (h : Scalar.le 0.0 friction = true)
    (hproduct : Scalar.le 0.0 (friction * step) = true) :
    ∃ w, afterStep v (.real friction) (.real step) = .ok w ∧ v.TowardZero w ∧
      (Scalar.le (remainingSpeed v (friction * step)) 0.0 = true → w = Vec2.zero) := by
  rw [afterStep_real, not_lt_zero_of_nonneg h]
  exact slowed_toward hv hproduct

/-- A friction and a time (ms), both finite and not below zero. -/
structure Forward (friction step : Double) : Prop where
  friction_finite : friction.isFinite = true
  friction_nonneg : 0 ≤ friction.toRat
  step_finite : step.isFinite = true
  step_nonneg : 0 ≤ step.toRat

theorem Forward.toward (h : Forward friction step) (hv : v.IsFinite) :
    ∃ w, afterStep v (.real friction) (.real step) = .ok w ∧ v.TowardZero w ∧
      (Scalar.le (remainingSpeed v (friction * step)) 0.0 = true → w = Vec2.zero) := by
  refine afterStep_toward hv (nonneg_iff.mpr (.inr ⟨h.friction_finite, h.friction_nonneg⟩)) ?_
  rw [mul_eq h.friction_finite h.step_finite]
  exact nonneg_round (mul_nonneg h.friction_nonneg h.step_nonneg) _

/-- The velocity after steps in order, each one a friction and a time. -/
def afterSteps (v : Vec2 Double) (steps : List (Double × Double)) : Except Fault (Vec2 Double) :=
  steps.foldlM (fun v step => afterStep v (.real step.1) (.real step.2)) v

theorem afterSteps_toward {steps : List (Double × Double)} (hv : v.IsFinite)
    (forward : ∀ step ∈ steps, Forward step.1 step.2) :
    ∃ w, afterSteps v steps = .ok w ∧ v.TowardZero w := by
  induction steps generalizing v with
  | nil => exact ⟨v, rfl, .refl hv⟩
  | cons step steps ih =>
    obtain ⟨w, hw, toward, -⟩ := (forward step (by simp)).toward hv
    obtain ⟨w', hw', toward'⟩ := ih (toward.isFinite hv) fun step h => forward step (by simp [h])
    refine ⟨w', ?_, toward.trans toward'⟩
    rw [afterSteps, List.foldlM_cons, hw]
    exact hw'

theorem afterSteps_append {before : List (Double × Double)} {w : Vec2 Double}
    (h : afterSteps v before = .ok w) (after : List (Double × Double)) :
    afterSteps v (before ++ after) = afterSteps w after := by
  rw [afterSteps] at h
  rw [afterSteps, List.foldlM_append, h]
  rfl

theorem afterStep_negative (v : Vec2 Double) (h : Scalar.lt friction 0.0 = true)
    (step : Value Double) : afterStep v (.real friction) step =
      .error (.negativeFriction (Value.real friction).display) := by
  have negative : (Value.real friction).lt? (.int 0) = .ok true := by
    rw [lt?_zero, h]
  rw [afterStep, negative]
  rfl

/-- A negative friction is refused before anything is changed. -/
theorem step_negative {s : Session Double} {name : String} {body : Body Double}
    (planar : s.run.variant = .planar) (hbody : s.bodies.get name = .ok body)
    (hv : body.levelVelocity = .ok v) (h : Scalar.lt friction 0.0 = true) (step : Value Double) :
    s.step (.onBody name (.slowBall (.real friction) step)) =
      (.error (.negativeFriction (Value.real friction).display), s) := by
  have refused : s.run.variant.slowBall (.real friction) step body =
      .error (.negativeFriction (Value.real friction).display) := by
    rw [planar, Variant.slowBall, hv]
    change (do return { body with velocity := (← afterStep v (.real friction) step).toValue }) = _
    rw [afterStep_negative v h]
    rfl
  rw [Session.step, hbody]
  change s.commit (do
    let (reply, body) ← Session.bodyReply s.run.variant body (.slowBall (.real friction) step)
    return (reply, s.setBody name body)) = _
  rw [Session.bodyReply, refused]
  rfl

/-- Steps of friction never fail, turn the ball round or speed it up. A step with a finite friction
and a finite time, neither below zero, takes each component of a velocity with a finite speed toward
zero, and to zero itself where no speed is left; so do any number of steps, and what has come to
rest stays at rest. A friction below zero is refused, and the ball goes on as before. -/
theorem friction_slows_down :
    (∀ v : Vec2 Double, v.IsFinite → ∀ friction step, Forward friction step →
      ∃ w, afterStep v (.real friction) (.real step) = .ok w ∧ v.TowardZero w ∧
        (Scalar.le (remainingSpeed v (friction * step)) 0.0 = true → w = Vec2.zero)) ∧
    (∀ v : Vec2 Double, v.IsFinite → ∀ before after : List (Double × Double),
      (∀ step ∈ before ++ after, Forward step.1 step.2) →
      ∃ w w', afterSteps v before = .ok w ∧ afterSteps v (before ++ after) = .ok w' ∧
        w.TowardZero w' ∧ (w.x.toRat = 0 → w'.x.toRat = 0) ∧ (w.y.toRat = 0 → w'.y.toRat = 0)) ∧
    ∀ friction : Double, Scalar.lt friction 0.0 = true → ∀ step : Value Double,
      (∀ v, afterStep v (.real friction) step =
        .error (.negativeFriction (Value.real friction).display)) ∧
      ∀ (s : Session Double) name body v, s.run.variant = .planar →
        s.bodies.get name = .ok body → body.levelVelocity = .ok v →
        s.step (.onBody name (.slowBall (.real friction) step)) =
          (.error (.negativeFriction (Value.real friction).display), s) := by
  refine ⟨fun v hv friction step forward => forward.toward hv, ?_, ?_⟩
  · intro v hv before after forward
    obtain ⟨w, hw, toward⟩ := afterSteps_toward hv
      fun step h => forward step (List.mem_append_left after h)
    obtain ⟨w', hw', toward'⟩ := afterSteps_toward (toward.isFinite hv)
      fun step h => forward step (List.mem_append_right before h)
    exact ⟨w, w', hw, (afterSteps_append hw after).trans hw', toward',
      toward'.x.of_toRat_eq_zero, toward'.y.of_toRat_eq_zero⟩
  · intro friction h step
    exact ⟨fun v => afterStep_negative v h step,
      fun s name body v planar hbody hv => step_negative planar hbody hv h step⟩

/-- A ball of speed five is stopped by one step that takes all of it, also after another step, and
not by a negative one. -/
theorem friction_slows_down_stopped :
    afterStep (⟨3.0, -4.0⟩ : Vec2 Double) (.real 5.0) (.real 1000.0) = .ok Vec2.zero ∧
      (∃ w w', afterSteps ⟨3.0, -4.0⟩ [(1.0, 1000.0)] = .ok w ∧
        afterSteps ⟨3.0, -4.0⟩ ([(1.0, 1000.0)] ++ [(5.0, 1000.0)]) = .ok w' ∧
        w.TowardZero w') ∧
      afterStep (⟨3.0, -4.0⟩ : Vec2 Double) (.real (-5.0)) (.real 1000.0) =
        .error (.negativeFriction (Value.real (-5.0 : Double)).display) := by
  obtain ⟨slower, runs, refused⟩ := friction_slows_down
  have hv : (⟨3.0, -4.0⟩ : Vec2 Double).IsFinite :=
    ⟨by decide +kernel, by decide +kernel, by decide +kernel⟩
  have some : Forward 1.0 1000.0 :=
    ⟨by decide +kernel, by decide +kernel, by decide +kernel, by decide +kernel⟩
  have all : Forward 5.0 1000.0 :=
    ⟨by decide +kernel, by decide +kernel, by decide +kernel, by decide +kernel⟩
  obtain ⟨w, hw, -, hstop⟩ := slower _ hv _ _ all
  obtain rfl := hstop (by decide +kernel)
  obtain ⟨u, u', hu, hu', toward, -⟩ := runs _ hv [(1.0, 1000.0)] [(5.0, 1000.0)]
    (by simpa using ⟨some, all⟩)
  exact ⟨hw, ⟨u, u', hu, hu', toward⟩, (refused (-5.0) (by decide +kernel) _).1 _⟩

end Ball
end RobotSoccer
