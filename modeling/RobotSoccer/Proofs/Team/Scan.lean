import RobotSoccer.Proofs.Team.Partition

/-! A roster of any scene: the scan of its groups fails at the first obstacle, or splits the bodies
in the order of the scene. -/
namespace RobotSoccer

variable {β K : Type}

section Names

variable (nameOf : β → Value K)

/-- Why a body's name has no number, `none` if it has one. -/
def nameFault? (body : β) : Option Fault :=
  match (nameOf body).robotNumber with
  | .ok _ => none
  | .error fault => some fault

/-- The number of a body's name, zero if it has none. -/
def nameNumber (body : β) : Nat :=
  match (nameOf body).robotNumber with
  | .ok number => number
  | .error _ => 0

variable {nameOf} {body : β} {fault : Fault}

theorem nameFault?_eq_some : nameFault? nameOf body = some fault ↔
    (nameOf body).robotNumber = .error fault := by
  unfold nameFault?
  cases (nameOf body).robotNumber <;> simp

theorem nameFault?_eq_none : nameFault? nameOf body = none ↔
    (nameOf body).robotNumber = .ok (nameNumber nameOf body) := by
  unfold nameFault? nameNumber
  cases (nameOf body).robotNumber <;> simp

end Names

namespace Scene

/-- What is in the way of a roster in one group: that the group is missing, or the names without a
number in it. -/
def obstaclesIn (nameOf : β → Value K) (scene : Scene β) (name : GroupName) : List Fault :=
  if (scene.group name).present then (scene.group name).members.filterMap (nameFault? nameOf)
  else [.missingGroup name.text]

/-- What is in the way of a roster, in the order of the scan. -/
def obstacles (nameOf : β → Value K) (scene : Scene β) : List Fault :=
  scene.obstaclesIn nameOf .robots ++ scene.obstaclesIn nameOf .extras

variable {nameOf : β → Value K} {scene : Scene β} {name : GroupName}

theorem obstaclesIn_eq_nil : scene.obstaclesIn nameOf name = [] ↔
    (scene.group name).present = true ∧ ∀ body ∈ (scene.group name).members,
      (nameOf body).robotNumber = .ok (nameNumber nameOf body) := by
  unfold obstaclesIn
  split <;> simp [*, nameFault?_eq_none]

theorem obstacles_eq_nil : scene.obstacles nameOf = [] ↔
    (scene.robots.present = true ∧ scene.extras.present = true) ∧ ∀ body ∈ scene.bodies,
      (nameOf body).robotNumber = .ok (nameNumber nameOf body) := by
  unfold obstacles bodies
  rw [List.append_eq_nil_iff, obstaclesIn_eq_nil, obstaclesIn_eq_nil, List.forall_mem_append]
  exact and_and_and_comm

end Scene

namespace Roster

section Faults

variable [Scalar K] {nameOf : β → Value K} {scene : Scene β} {own perTeam : Int} {fault : Fault}

theorem ofBody_failsFirst (own perTeam : Int) (body : β) :
    FailsFirst (ofBody nameOf (.int own) (.int perTeam) body) (nameFault? nameOf body).toList := by
  cases h : nameFault? nameOf body with
  | some fault =>
    rw [ofBody, nameFault?_eq_some.mp h]
    exact failsFirst_faultsOf (.error fault)
  | none =>
    obtain ⟨r, hr, -⟩ := ofBody_numbered own perTeam (nameFault?_eq_none.mp h)
    rw [hr]
    exact .ok r

/-- The scan of bodies fails at the first name without a number. -/
theorem ofBodies_failsFirst (own perTeam : Int) (bodies : List β) :
    FailsFirst (ofBodies nameOf (.int own) (.int perTeam) bodies)
      (bodies.filterMap (nameFault? nameOf)) := by
  rw [List.filterMap_eq_flatMap_toList]
  induction bodies with
  | nil => exact .ok empty
  | cons body rest ih =>
    rw [ofBodies, List.flatMap_cons]
    exact (ofBody_failsFirst own perTeam body).bind fun first =>
      ih.bind_ok fun roster => first ++ roster

/-- The scan of one group, which must be there. -/
def ofGroup (nameOf : β → Value K) (scene : Scene β) (own perTeam : Value K) (name : GroupName) :
    Except Fault (Roster β) := scene.members name >>= ofBodies nameOf own perTeam

theorem ofScene_eq {own perTeam : Value K} : ofScene nameOf scene own perTeam =
    ofGroup nameOf scene own perTeam .robots >>= fun robots =>
      ofGroup nameOf scene own perTeam .extras >>= fun extras => pure (robots ++ extras) := by
  simp only [ofScene, ofGroup, bind_assoc]

theorem ofGroup_failsFirst (own perTeam : Int) (scene : Scene β) (name : GroupName) :
    FailsFirst (ofGroup nameOf scene (.int own) (.int perTeam) name)
      (scene.obstaclesIn nameOf name) := by
  rw [ofGroup, Scene.members, Scene.obstaclesIn]
  split
  · exact ofBodies_failsFirst own perTeam _
  · exact failsFirst_faultsOf (.error _)

theorem ofScene_failsFirst (own perTeam : Int) (scene : Scene β) :
    FailsFirst (ofScene nameOf scene (.int own) (.int perTeam)) (scene.obstacles nameOf) := by
  rw [ofScene_eq, Scene.obstacles]
  exact (ofGroup_failsFirst own perTeam scene .robots).bind fun robots =>
    (ofGroup_failsFirst own perTeam scene .extras).bind_ok fun extras => robots ++ extras

/-- The scan of a scene fails at the first obstacle. -/
theorem ofScene_error_iff : ofScene nameOf scene (.int own) (.int perTeam) = .error fault ↔
    (scene.obstacles nameOf).head? = some fault := ofScene_failsFirst own perTeam scene fault

end Faults

/-- A roster as the split of a scene by the numbers of the names. -/
structure Partitions (nameOf : β → Value K) (scene : Scene β) (own perTeam : Int)
    (r : Roster β) : Prop where
  firstTeam : r.firstTeam = (scene.bodies.filter fun body =>
    (nameNumber nameOf body : Int) ≠ own ∧ (nameNumber nameOf body : Int) ≤ perTeam).map
      (.ofBody (nameNumber nameOf))
  secondTeam : r.secondTeam = (scene.bodies.filter fun body =>
    (nameNumber nameOf body : Int) ≠ own ∧ perTeam < (nameNumber nameOf body : Int)).map
      (.ofBody (nameNumber nameOf))
  /-- Each entry has the number of its own body's name. -/
  numbers : ∀ first, ∀ entry ∈ r.team first, (nameOf entry.body).robotNumber = .ok entry.number
  /-- Only bodies with the own number are left out. -/
  size : r.size + scene.bodies.countP (fun body => (nameNumber nameOf body : Int) = own) =
    scene.bodies.length

section Answers

variable {nameOf : β → Value K} {scene : Scene β} {own perTeam : Int} {r : Roster β}

theorem finds_true (number : β → Nat) : finds number own perTeam true = fun body =>
    decide ((number body : Int) ≠ own ∧ (number body : Int) ≤ perTeam) := by
  funext body
  simp [finds]

theorem finds_false (number : β → Nat) : finds number own perTeam false = fun body =>
    decide ((number body : Int) ≠ own ∧ perTeam < (number body : Int)) := by
  funext body
  by_cases h : (number body : Int) ≤ perTeam
  · simp [finds, h, Int.not_lt.mpr h]
  · simp [finds, h, Int.not_le.mp h]

/-- Each body has the own number or is found in one of the teams. -/
theorem countP_finds (number : β → Nat) (bodies : List β) :
    bodies.countP (finds number own perTeam true) + bodies.countP (finds number own perTeam false) +
      bodies.countP (fun body => (number body : Int) = own) = bodies.length := by
  induction bodies with
  | nil => rfl
  | cons body rest ih =>
    simp only [List.countP_cons, List.length_cons, ← ih]
    by_cases ho : (number body : Int) = own
    · simp [finds, ho]
      omega
    · by_cases hf : (number body : Int) ≤ perTeam <;> simp [finds, ho, hf] <;> omega

/-- A roster is a partition when each of its teams is what that team finds in the scene. -/
theorem partitions_of_team
    (named : ∀ body ∈ scene.bodies, (nameOf body).robotNumber = .ok (nameNumber nameOf body))
    (h : ∀ first, r.team first = (scene.bodies.filter
      (finds (nameNumber nameOf) own perTeam first)).map (.ofBody (nameNumber nameOf))) :
    r.Partitions nameOf scene own perTeam where
  firstTeam := by
    rw [← finds_true]
    exact h true
  secondTeam := by
    rw [← finds_false]
    exact h false
  numbers first entry hmem := by
    rw [h first] at hmem
    obtain ⟨body, hbody, rfl⟩ := List.mem_map.mp hmem
    exact named body (List.mem_of_mem_filter hbody)
  size := by
    have length (first : Bool) : (r.team first).length =
        scene.bodies.countP (finds (nameNumber nameOf) own perTeam first) := by
      rw [h first, List.length_map, List.countP_eq_length_filter]
    have hfirst := length true
    have hsecond := length false
    rw [← countP_finds (nameNumber nameOf) scene.bodies, ← hfirst, ← hsecond]
    rfl

theorem Partitions.eq {s : Roster β} (hr : r.Partitions nameOf scene own perTeam)
    (hs : s.Partitions nameOf scene own perTeam) : r = s := by
  obtain ⟨rFirst, rSecond⟩ := r
  obtain ⟨sFirst, sSecond⟩ := s
  exact congrArg₂ Roster.mk (hr.firstTeam.trans hs.firstTeam.symm)
    (hr.secondTeam.trans hs.secondTeam.symm)

/-- A scene without obstacles has a roster, its partition. -/
theorem ofScene_partitions [Scalar K] (own perTeam : Int) (h : scene.obstacles nameOf = []) :
    ∃ r, ofScene nameOf scene (.int own) (.int perTeam) = .ok r ∧
      r.Partitions nameOf scene own perTeam := by
  obtain ⟨⟨robots, extras⟩, named⟩ := Scene.obstacles_eq_nil.mp h
  obtain ⟨r, hr, hteam⟩ := ofScene_numbered own perTeam robots extras named
  exact ⟨r, hr, partitions_of_team named hteam⟩

end Answers

/-- A scan fails exactly at the first obstacle, and answers exactly with the split of a scene
without obstacles. -/
theorem roster_partitions_scene [Scalar K] (nameOf : β → Value K) (scene : Scene β)
    (own perTeam : Int) :
    (∀ fault, ofScene nameOf scene (.int own) (.int perTeam) = .error fault ↔
      (scene.obstacles nameOf).head? = some fault) ∧
    ∀ r, ofScene nameOf scene (.int own) (.int perTeam) = .ok r ↔
      scene.obstacles nameOf = [] ∧ r.Partitions nameOf scene own perTeam := by
  refine ⟨fun fault => ofScene_error_iff, fun r => ⟨fun hr => ?_, ?_⟩⟩
  · have clear : scene.obstacles nameOf = [] := by
      rw [← List.head?_eq_none_iff, Option.eq_none_iff_forall_ne_some]
      intro fault hfault
      have refused : ofScene nameOf scene (.int own) (.int perTeam) = .error fault :=
        ofScene_error_iff.mpr hfault
      cases hr.symm.trans refused
    obtain ⟨s, hs, split⟩ := ofScene_partitions own perTeam clear
    obtain rfl := Except.ok.inj (hr.symm.trans hs)
    exact ⟨clear, split⟩
  · rintro ⟨clear, split⟩
    obtain ⟨s, hs, split'⟩ := ofScene_partitions own perTeam clear
    rw [hs, split.eq split']

-- A name without a number comes before a missing group.
example : ofScene (fun name => (.text name : Value Double)) ⟨⟨true, ["r1", "post"]⟩, ⟨false, []⟩⟩
    (.int 1) (.int 20) = .error (.nameWithoutNumber "post") := by decide +kernel

end Roster
end RobotSoccer
