import Mathlib.Data.List.Nodup
import RobotSoccer.Proofs.Team.Split

/-! The roster of a scene in which every name has a number: each team is a sublist of the bodies, in
the order of the scene. -/
namespace RobotSoccer

variable {β K : Type}

/-- All bodies of a scene, group after group. -/
def Scene.bodies (scene : Scene β) : List β := scene.robots.members ++ scene.extras.members

/-- A body with its number. -/
def Numbered.ofBody (number : β → Nat) (body : β) : Numbered β := ⟨number body, body⟩

namespace Roster

/-- Whether a robot with the number `own` finds a body in a team. -/
def finds (number : β → Nat) (own perTeam : Int) (first : Bool) (body : β) : Bool :=
  decide ((number body : Int) ≠ own) && decide ((number body : Int) ≤ perTeam) == first

variable [Scalar K] {nameOf : β → Value K} {number : β → Nat} (own perTeam : Int)

theorem ofBody_numbered {body : β} (h : (nameOf body).robotNumber = .ok (number body)) :
    ∃ r, ofBody nameOf (.int own) (.int perTeam) body = .ok r ∧ ∀ first,
      r.team first = ([body].filter (finds number own perTeam first)).map (.ofBody number) := by
  unfold ofBody
  simp only [h, bind, Except.bind, Value.same_int, inFirstTeam_int]
  by_cases ho : (number body : Int) = own
  · exact ⟨empty, by simp [ho, pure, Except.pure], fun first => by simp [finds, ho]⟩
  · by_cases hf : (number body : Int) ≤ perTeam
    · refine ⟨⟨[⟨number body, body⟩], []⟩, by simp [ho, hf, pure, Except.pure], fun first => ?_⟩
      cases first <;> simp [finds, ho, hf, team, Numbered.ofBody]
    · refine ⟨⟨[], [⟨number body, body⟩]⟩, by simp [ho, hf, pure, Except.pure], fun first => ?_⟩
      cases first <;> simp [finds, ho, hf, team, Numbered.ofBody]

theorem ofBodies_numbered {bodies : List β}
    (h : ∀ body ∈ bodies, (nameOf body).robotNumber = .ok (number body)) :
    ∃ r, ofBodies nameOf (.int own) (.int perTeam) bodies = .ok r ∧ ∀ first,
      r.team first = (bodies.filter (finds number own perTeam first)).map (.ofBody number) := by
  induction bodies with
  | nil => exact ⟨empty, rfl, fun first => by simp⟩
  | cons body rest ih =>
    obtain ⟨r, hr, hteam⟩ := ofBody_numbered own perTeam (h body (by simp))
    obtain ⟨s, hs, hteams⟩ := ih fun b hb => h b (by simp [hb])
    refine ⟨r ++ s, by simp [ofBodies, hr, hs, bind, Except.bind, pure, Except.pure], ?_⟩
    intro first
    rw [team_append, hteam, hteams, ← List.map_append, ← List.filter_append, List.singleton_append]

/-- Both groups of a scene make up one roster, the robots before the extras. -/
theorem ofScene_numbered {scene : Scene β} (robots : scene.robots.present = true)
    (extras : scene.extras.present = true)
    (h : ∀ body ∈ scene.bodies, (nameOf body).robotNumber = .ok (number body)) :
    ∃ r, ofScene nameOf scene (.int own) (.int perTeam) = .ok r ∧ ∀ first,
      r.team first = (scene.bodies.filter (finds number own perTeam first)).map
        (.ofBody number) := by
  obtain ⟨r, hr, hteam⟩ := ofBodies_numbered own perTeam
    fun body hb => h body (List.mem_append_left _ hb)
  obtain ⟨s, hs, hteams⟩ := ofBodies_numbered own perTeam
    fun body hb => h body (List.mem_append_right _ hb)
  refine ⟨r ++ s, ?_, fun first => ?_⟩
  · simp [ofScene, Scene.members, Scene.group, robots, extras, hr, hs, bind, Except.bind, pure,
      Except.pure]
  · rw [team_append, hteam, hteams, ← List.map_append, ← List.filter_append, Scene.bodies]

end Roster
end RobotSoccer
