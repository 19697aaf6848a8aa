import RobotSoccer.Proofs.Outcome
import RobotSoccer.Team.Roster

/-! How a roster splits the bodies of a scene: each one by the number of its name. -/
namespace RobotSoccer.Roster

variable {β K : Type}

def team (r : Roster β) : (first : Bool) → List (Numbered β)
  | true => r.firstTeam
  | false => r.secondTeam

@[simp] theorem team_empty (first : Bool) : (empty : Roster β).team first = [] := by
  cases first <;> rfl

@[simp] theorem team_append (r s : Roster β) (first : Bool) :
    (r ++ s).team first = r.team first ++ s.team first := by
  cases first <;> rfl

variable [Scalar K] {nameOf : β → Value K} {own perTeam : Value K} {r s : Roster β}

/-- A body of a team with the number of its name. -/
def Belongs (nameOf : β → Value K) (perTeam : Value K) (first : Bool) (entry : Numbered β) : Prop :=
  (nameOf entry.body).robotNumber = .ok entry.number ∧
    inFirstTeam (.int entry.number) perTeam = .ok first

/-- Each entry stands in the team of its number. -/
def Split (nameOf : β → Value K) (perTeam : Value K) (r : Roster β) : Prop :=
  ∀ first, ∀ entry ∈ r.team first, Belongs nameOf perTeam first entry

theorem split_empty : Split nameOf perTeam empty := by
  intro first entry h
  simp at h

theorem Split.append (hr : Split nameOf perTeam r) (hs : Split nameOf perTeam s) :
    Split nameOf perTeam (r ++ s) := by
  intro first entry h
  rw [team_append] at h
  rcases List.mem_append.mp h with h | h
  · exact hr first entry h
  · exact hs first entry h

theorem split_ofBody {body : β} (h : ofBody nameOf own perTeam body = .ok r) :
    Split nameOf perTeam r := by
  obtain ⟨number, hn, h⟩ := ok_of_bind h
  obtain ⟨isOwn, -, h⟩ := ok_of_bind h
  cases isOwn with
  | true =>
    cases h
    exact split_empty
  | false =>
    obtain ⟨inFirst, hf, h⟩ := ok_of_bind h
    intro first entry hmem
    cases inFirst <;> cases h <;> cases first <;> simp [team] at hmem <;> subst hmem <;>
      exact ⟨hn, hf⟩

theorem split_ofBodies {bodies : List β} (h : ofBodies nameOf own perTeam bodies = .ok r) :
    Split nameOf perTeam r := by
  induction bodies generalizing r with
  | nil =>
    cases h
    exact split_empty
  | cons body rest ih =>
    obtain ⟨first, hfirst, h⟩ := ok_of_bind h
    obtain ⟨others, hothers, h⟩ := ok_of_bind h
    cases h
    exact (split_ofBody hfirst).append (ih hothers)

theorem split_ofScene {scene : Scene β} (h : ofScene nameOf scene own perTeam = .ok r) :
    Split nameOf perTeam r := by
  obtain ⟨robotBodies, -, h⟩ := ok_of_bind h
  obtain ⟨robots, hrobots, h⟩ := ok_of_bind h
  obtain ⟨extraBodies, -, h⟩ := ok_of_bind h
  obtain ⟨extras, hextras, h⟩ := ok_of_bind h
  cases h
  exact (split_ofBodies hrobots).append (split_ofBodies hextras)

end RobotSoccer.Roster
