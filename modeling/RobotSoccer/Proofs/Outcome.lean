import Mathlib.Data.List.Forall2
import RobotSoccer.Fault

/-! Two outcomes that fail alike or answer alike, and lists of outcomes. -/
namespace RobotSoccer

variable {α β γ δ : Type}

inductive Agree (R : α → β → Prop) : Except Fault α → Except Fault β → Prop
  | ok {a : α} {b : β} (h : R a b) : Agree R (.ok a) (.ok b)
  | error (fault : Fault) : Agree R (.error fault) (.error fault)

namespace Agree

variable {R : α → β → Prop} {S : γ → δ → Prop} {x : Except Fault α} {y : Except Fault β}

theorem refl {R : α → α → Prop} (hR : ∀ a, R a a) (x : Except Fault α) : Agree R x x := by
  cases x with
  | ok a => exact .ok (hR a)
  | error fault => exact .error fault

theorem symm {T : β → α → Prop} (h : Agree R x y) (hT : ∀ a b, R a b → T b a) : Agree T y x := by
  cases h with
  | ok h => exact .ok (hT _ _ h)
  | error fault => exact .error fault

theorem trans {T : α → γ → Prop} {S : β → γ → Prop} {z : Except Fault γ} (h : Agree R x y)
    (h' : Agree S y z) (hT : ∀ a b c, R a b → S b c → T a c) : Agree T x z := by
  cases h with
  | ok h =>
    cases h' with
    | ok h' => exact .ok (hT _ _ _ h h')
  | error fault =>
    cases h'
    exact .error fault

theorem answer {a : α} (h : Agree R (.ok a) y) : ∃ b, y = .ok b ∧ R a b := by
  cases h with
  | ok h => exact ⟨_, rfl, h⟩

theorem bind {f : α → Except Fault γ} {g : β → Except Fault δ} (h : Agree R x y)
    (hf : ∀ a b, R a b → Agree S (f a) (g b)) : Agree S (x >>= f) (y >>= g) := by
  cases h with
  | ok h => exact hf _ _ h
  | error fault => exact .error fault

theorem bind_same {x : Except Fault α} {f : α → Except Fault γ} {g : α → Except Fault δ}
    (hf : ∀ a, Agree S (f a) (g a)) : Agree S (x >>= f) (x >>= g) := by
  cases x with
  | ok a => exact hf a
  | error fault => exact .error fault

theorem mapM {P : α → β → Prop} {xs : List α} {ys : List β} {f : α → Except Fault γ}
    {g : β → Except Fault δ} (h : List.Forall₂ P xs ys) (hf : ∀ a b, P a b → Agree S (f a) (g b)) :
    Agree (List.Forall₂ S) (xs.mapM f) (ys.mapM g) := by
  induction h with
  | nil => exact .ok .nil
  | cons h _ ih =>
    rw [List.mapM_cons, List.mapM_cons]
    refine (hf _ _ h).bind fun c d hcd => ih.bind fun cs ds hcds => ?_
    exact .ok (.cons hcd hcds)

end Agree

/-- An answer in two parts has an answer of the first one. -/
theorem ok_of_bind {x : Except Fault α} {f : α → Except Fault β} {b : β} (h : x >>= f = .ok b) :
    ∃ a, x = .ok a ∧ f a = .ok b := by
  cases x with
  | error fault => cases h
  | ok a => exact ⟨a, rfl, h⟩

/-- An answer in two parts fails with the first part, or after it with the second one. -/
theorem bind_error_iff {x : Except Fault α} {f : α → Except Fault β} {fault : Fault} :
    x >>= f = .error fault ↔ x = .error fault ∨ ∃ a, x = .ok a ∧ f a = .error fault := by
  cases x with
  | error other => simp [bind, Except.bind]
  | ok a => simp [bind, Except.bind]

theorem answers_iff {x : Except Fault α} : (∃ a, x = .ok a) ↔ ∀ fault, x ≠ .error fault := by
  cases x with
  | error fault => simp
  | ok a => simp

theorem answers_of_isOk {x : Except Fault α} (h : x.isOk = true) : ∃ a, x = .ok a := by
  cases x with
  | error fault => cases h
  | ok a => exact ⟨a, rfl⟩

theorem getElem?_of_forall₂ {R : α → β → Prop} {xs : List α} {ys : List β}
    (h : List.Forall₂ R xs ys) {i : Nat} {a : α} (ha : xs[i]? = some a) :
    ∃ b, ys[i]? = some b ∧ R a b := by
  induction h generalizing i with
  | nil => simp at ha
  | cons hab _ ih =>
    cases i with
    | zero =>
      obtain rfl := Option.some.inj ha
      exact ⟨_, rfl, hab⟩
    | succ i => exact ih ha

/-- A list of answers has the answer of each item in its place. -/
theorem forall₂_of_mapM_ok {f : α → Except Fault β} {xs : List α} {ys : List β}
    (h : xs.mapM f = .ok ys) : List.Forall₂ (fun a b => f a = .ok b) xs ys := by
  induction xs generalizing ys with
  | nil =>
    cases h
    exact .nil
  | cons x xs ih =>
    rw [List.mapM_cons] at h
    obtain ⟨z, hz, h⟩ := ok_of_bind h
    obtain ⟨zs, hzs, h⟩ := ok_of_bind h
    cases h
    exact .cons hz (ih hzs)

theorem mapM_answers {f : α → Except Fault β} {xs : List α} (h : ∀ x ∈ xs, ∃ y, f x = .ok y) :
    ∃ ys, xs.mapM f = .ok ys := by
  induction xs with
  | nil => exact ⟨[], rfl⟩
  | cons x xs ih =>
    obtain ⟨y, hy⟩ := h x (by simp)
    obtain ⟨ys, hys⟩ := ih fun x hx => h x (by simp [hx])
    refine ⟨y :: ys, ?_⟩
    rw [List.mapM_cons, hy, hys]
    rfl

/-- An outcome fails with the first of these faults, and answers if there is none. -/
def FailsFirst (x : Except Fault α) (faults : List Fault) : Prop :=
  ∀ fault, x = .error fault ↔ faults.head? = some fault

/-- What is wrong with an outcome. -/
def faultsOf : Except Fault α → List Fault
  | .ok _ => []
  | .error fault => [fault]

theorem failsFirst_faultsOf (x : Except Fault α) : FailsFirst x (faultsOf x) := by
  intro fault
  cases x <;> simp [faultsOf]

namespace FailsFirst

variable {x : Except Fault α} {f : α → Except Fault β} {faults rest : List Fault}

theorem ok (a : α) : FailsFirst (.ok a) [] := by
  intro fault
  simp

theorem answers_iff (h : FailsFirst x faults) : (∃ a, x = .ok a) ↔ faults = [] := by
  rw [RobotSoccer.answers_iff, ← List.head?_eq_none_iff, Option.eq_none_iff_forall_ne_some]
  exact forall_congr' fun fault => not_congr (h fault)

/-- What is wrong with a second part counts after what is wrong with the first. -/
theorem bind (h : FailsFirst x faults) (hf : ∀ a, FailsFirst (f a) rest) :
    FailsFirst (x >>= f) (faults ++ rest) := by
  intro fault
  rw [bind_error_iff, List.head?_append, Option.or_eq_some_iff, ← h fault]
  refine or_congr_right ?_
  rw [List.head?_eq_none_iff, ← h.answers_iff]
  constructor
  · rintro ⟨a, ha, hfault⟩
    exact ⟨⟨a, ha⟩, (hf a fault).mp hfault⟩
  · rintro ⟨⟨a, ha⟩, hfault⟩
    exact ⟨a, ha, (hf a fault).mpr hfault⟩

/-- What an answer is made into adds no fault. -/
theorem bind_ok (h : FailsFirst x faults) (g : α → β) :
    FailsFirst (x >>= fun a => .ok (g a)) faults := by
  simpa using h.bind fun a => ok (g a)

theorem mapM {faultsOfItem : α → List Fault} (hf : ∀ a, FailsFirst (f a) (faultsOfItem a))
    (xs : List α) : FailsFirst (xs.mapM f) (xs.flatMap faultsOfItem) := by
  induction xs with
  | nil => exact ok []
  | cons a xs ih =>
    rw [List.mapM_cons, List.flatMap_cons]
    exact (hf a).bind fun b => ih.bind_ok fun bs => b :: bs

end FailsFirst

theorem exists_of_forall₂ {R : α → β → Prop} {xs : List α} {ys : List β}
    (h : List.Forall₂ R xs ys) {a : α} (ha : a ∈ xs) : ∃ b ∈ ys, R a b := by
  obtain ⟨i, hi⟩ := List.mem_iff_getElem?.mp ha
  obtain ⟨b, hb, hab⟩ := getElem?_of_forall₂ h hi
  exact ⟨b, List.mem_of_getElem? hb, hab⟩

end RobotSoccer
