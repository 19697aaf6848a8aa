import RobotSoccer.Proofs.Session.Opposed
import RobotSoccer.Proofs.Session.Sighting
import RobotSoccer.Proofs.Team.Partition

/-! Snapshots of one scene. Robots that are made on its bodies list each other once, teammates apart
from opponents, and agree about sides, numbers and poses. -/
namespace RobotSoccer.Session

variable {K : Type}

/-- A scene whose bodies can be told apart: both groups are there, and each body has a number of its
own. -/
structure Lineup (s : Session K) (perTeam : Int) (number : String → Nat) : Prop where
  robots : s.run.scene.robots.present = true
  extras : s.run.scene.extras.present = true
  perTeam : s.run.robotsPerTeam = .int perTeam
  named : ∀ body ∈ s.run.scene.bodies, (s.nameOf body).robotNumber = .ok (number body)
  distinct : (s.run.scene.bodies.map number).Nodup

/-- The other bodies on a body's own side of the split, or those across it, in the order of the
scene. -/
def side (s : Session K) (perTeam : Int) (number : String → Nat) (body : String) (own : Bool) :
    List String :=
  s.run.scene.bodies.filter fun other => other ≠ body ∧
    (((number other : Int) ≤ perTeam ↔ (number body : Int) ≤ perTeam) ↔ own = true)

/-- The number that a robot has within its team. -/
def withinTeam (perTeam : Int) (number : Nat) : Int :=
  if (number : Int) ≤ perTeam then number else number - perTeam

variable {s t u : Session K} {perTeam : Int} {number : String → Nat} {body other : String}
  {own : Bool}

namespace Lineup

theorem nodup (h : s.Lineup perTeam number) : s.run.scene.bodies.Nodup := h.distinct.of_map number

theorem number_inj (h : s.Lineup perTeam number) (hb : body ∈ s.run.scene.bodies)
    (ho : other ∈ s.run.scene.bodies) : number other = number body ↔ other = body :=
  ⟨fun same => List.inj_on_of_nodup_map h.distinct ho hb same, fun same => same ▸ rfl⟩

theorem mem_side : other ∈ s.side perTeam number body own ↔ other ∈ s.run.scene.bodies ∧
    other ≠ body ∧
      (((number other : Int) ≤ perTeam ↔ (number body : Int) ≤ perTeam) ↔ own = true) := by
  simp only [side, List.mem_filter, decide_eq_true_eq]

/-- Each other body is on one side. -/
theorem sides_perm (h : s.Lineup perTeam number) (body : String) :
    (s.side perTeam number body true ++ s.side perTeam number body false).Perm
      (s.run.scene.bodies.erase body) := by
  let along (other : String) : Bool :=
    decide ((number other : Int) ≤ perTeam ↔ (number body : Int) ≤ perTeam)
  have split : ∀ own, s.side perTeam number body own =
      (s.run.scene.bodies.filter (· != body)).filter fun other => along other == own := by
    intro own
    rw [List.filter_filter]
    refine List.filter_congr fun other _ => ?_
    rw [Bool.eq_iff_iff]
    cases own <;> simp [along, and_comm]
  rw [h.nodup.erase_eq_filter, split, split]
  simpa using List.filter_append_perm along (s.run.scene.bodies.filter (· != body))

/-- A robot on a body finds just the other bodies, each on its side. -/
theorem finds_eq (h : s.Lineup perTeam number) (hb : body ∈ s.run.scene.bodies) (own : Bool) :
    s.run.scene.bodies.filter (Roster.finds number (number body) perTeam
      (own == decide ((number body : Int) ≤ perTeam))) = s.side perTeam number body own := by
  refine List.filter_congr fun other ho => ?_
  have hne : (number other : Int) = number body ↔ other = body := by
    rw [Int.natCast_inj, h.number_inj hb ho]
  rw [Bool.eq_iff_iff]
  by_cases hb : (number body : Int) ≤ perTeam <;> by_cases ho : (number other : Int) ≤ perTeam <;>
    cases own <;> simp [Roster.finds, hne, hb, ho]

theorem first_of_side (ho : other ∈ s.side perTeam number body own) :
    (own == decide ((number body : Int) ≤ perTeam)) = decide ((number other : Int) ≤ perTeam) := by
  obtain ⟨-, -, hside⟩ := mem_side.mp ho
  by_cases hb : (number body : Int) ≤ perTeam <;> by_cases hn : (number other : Int) ≤ perTeam <;>
    cases own <;> simp [hb, hn] at hside ⊢

/-- On one side of the split the numbers within the team tell the bodies apart. -/
theorem withinTeam_nodup (h : s.Lineup perTeam number) (body : String) (own : Bool) :
    ((s.side perTeam number body own).map fun b => withinTeam perTeam (number b)).Nodup := by
  refine List.Nodup.map_on ?_ (h.nodup.filter _)
  intro x hx y hy same
  have sides := (first_of_side hx).symm.trans (first_of_side hy)
  rw [decide_eq_decide] at sides
  have equal : number x = number y := by
    unfold withinTeam at same
    by_cases hn : (number x : Int) ≤ perTeam
    · rw [if_pos hn, if_pos (sides.mp hn)] at same
      omega
    · rw [if_neg hn, if_neg fun hy => hn (sides.mpr hy)] at same
      omega
  exact (h.number_inj (mem_side.mp hy).1 (mem_side.mp hx).1).mp equal

theorem mem_roster {r : Robot K} {first : Bool} {entry : Numbered String}
    (hlisted : ∀ own, r.listed own = (s.side perTeam number body own).map (.ofBody number))
    (h : entry ∈ r.roster.team first) : entry.body ∈ s.run.scene.bodies := by
  rw [r.team_eq_listed, hlisted] at h
  obtain ⟨other, ho, rfl⟩ := List.mem_map.mp h
  exact (mem_side.mp ho).1

end Lineup

variable [Scalar K]

/-- A player of a snapshot in `t` that stands for a body: it has the number that a robot made on the
body in `s` has in its team, and the body's pose, for a teammate that robot's own one. -/
structure StandsFor (s t : Session K) (observer : Robot K) (own : Bool) (body : String)
    (p : Player K) : Prop where
  number : ∃ r, s.makeRobot body = .ok r ∧ r.team.relativeNumber = .ok p.number
  pose : ∃ q, t.poseOf body = .ok (q, p.upright) ∧ p.pose = observer.frame.pose q
  teammate : own = true → ∀ r, s.makeRobot body = .ok r →
    t.robotPose r = .ok (p.pose, p.upright) ∧
      ∀ name m w u, t.look name { r with ball := m } = (.ok w, u) → w.ownPose = p.pose

namespace Lineup

theorem makeRobot (h : s.Lineup perTeam number) (hb : body ∈ s.run.scene.bodies) :
    ∃ r, s.makeRobot body = .ok r ∧ r.body = body ∧
      r.team = ⟨decide ((number body : Int) ≤ perTeam), number body, .int perTeam⟩ ∧
      ∀ own, r.listed own = (s.side perTeam number body own).map (.ofBody number) := by
  have hname := h.named body hb
  obtain ⟨roster, hroster, hteam⟩ := Roster.ofScene_numbered (number body) perTeam h.robots
    h.extras h.named
  cases hbody : s.bodies.get? body with
  | none =>
    rw [nameOf, hbody] at hname
    cases hname
  | some b =>
    rw [nameOf, hbody] at hname
    change b.name.robotNumber = _ at hname
    refine ⟨⟨body, ⟨decide ((number body : Int) ≤ perTeam), number body, .int perTeam⟩, roster,
      .fresh⟩, ?_, rfl, rfl, fun own => ?_⟩
    · simp [Session.makeRobot, Table.get_of_some hbody, hname, h.perTeam, TeamMember.ofNumber,
        inFirstTeam_int, hroster, bind, Except.bind, pure, Except.pure]
    · rw [Robot.listed, hteam, h.finds_eq hb]

theorem relativeNumber {r : Robot K}
    (hteam : r.team = ⟨decide ((number body : Int) ≤ perTeam), number body, .int perTeam⟩) :
    r.team.relativeNumber = .ok (.int (withinTeam perTeam (number body))) := by
  rw [TeamMember.relativeNumber, hteam]
  exact teamNumber_int _ _

theorem shownNumber (h : s.Lineup perTeam number) (hrun : t.run.robotsPerTeam = s.run.robotsPerTeam)
    (n : Nat) :
    t.shownNumber (decide ((n : Int) ≤ perTeam)) n = .ok (.int (withinTeam perTeam n)) := by
  rw [Session.shownNumber, hrun, h.perTeam, Value.sub_int, withinTeam]
  by_cases hn : (n : Int) ≤ perTeam <;> simp [hn]

/-- A player that is shown in the place of a body stands for it. -/
theorem standsFor (h : s.Lineup perTeam number) (hrun : t.run.robotsPerTeam = s.run.robotsPerTeam)
    {observer : Robot K} (hteam : observer.team.isFirst = decide ((number body : Int) ≤ perTeam))
    (ho : other ∈ s.side perTeam number body own) {p : Player K}
    (hp : t.Shows observer.frame (own == observer.team.isFirst) (.ofBody number other) p) :
    s.StandsFor t observer own other p ∧
      p.number = .int (withinTeam perTeam (number other)) := by
  obtain ⟨r, hmade, hbody, hside, -⟩ := h.makeRobot (mem_side.mp ho).1
  have hshown := hp.number
  rw [hteam, first_of_side ho, Numbered.ofBody, h.shownNumber hrun, Except.ok.injEq] at hshown
  obtain ⟨q, hq, hpose⟩ := hp.pose
  refine ⟨⟨⟨r, hmade, ?_⟩, ⟨q, hq, hpose⟩, ?_⟩, hshown.symm⟩
  · rw [relativeNumber hside, hshown]
  · rintro rfl r' hr'
    obtain rfl : r = r' := Except.ok.inj (hmade.symm.trans hr')
    have frame : r.frame = observer.frame := by
      rw [Robot.frame, Robot.frame, hteam, hside, ← first_of_side ho, Bool.true_beq]
    have own : t.robotPose r = .ok (p.pose, p.upright) := by
      rw [robotPose_eq, hbody]
      change t.poseOf other = _ at hq
      rw [hq, hpose, ← frame]
      rfl
    refine ⟨own, fun name m w u hw => ?_⟩
    obtain ⟨upright, hown⟩ := look_ownPose hw
    change t.robotPose r = _ at hown
    rw [own, Except.ok.injEq, Prod.mk.injEq] at hown
    exact hown.1.symm

/-- Each place of a snapshot's lists stands for a body of that side. -/
theorem players (h : s.Lineup perTeam number) (hrun : t.run.robotsPerTeam = s.run.robotsPerTeam)
    {r : Robot K} {m : Ball.Model K} {name : String} {w : Snapshot K}
    (hteam : r.team = ⟨decide ((number body : Int) ≤ perTeam), number body, .int perTeam⟩)
    (hlisted : ∀ own, r.listed own = (s.side perTeam number body own).map (.ofBody number))
    (hw : t.look name { r with ball := m } = (.ok w, u)) (own : Bool) :
    List.Forall₂ (s.StandsFor t r own) (s.side perTeam number body own) (w.players own) ∧
      (w.players own).map Player.number =
        (s.side perTeam number body own).map fun b => .int (withinTeam perTeam (number b)) := by
  have hshows := look_shows hw own
  change List.Forall₂ (t.Shows r.frame (own == r.team.isFirst)) (r.listed own) _ at hshows
  rw [hlisted, List.forall₂_map_left_iff] at hshows
  have hfirst : r.team.isFirst = decide ((number body : Int) ≤ perTeam) := by rw [hteam]
  have stands : List.Forall₂ (fun b p => s.StandsFor t r own b p ∧
      p.number = .int (withinTeam perTeam (number b))) (s.side perTeam number body own)
      (w.players own) :=
    ((List.forall₂_and_left _ _).mpr ⟨fun _ ho => ho, hshows⟩).imp fun _ _ hp =>
      h.standsFor hrun hfirst hp.1 hp.2
  have numbers : List.Forall₂ Eq ((s.side perTeam number body own).map fun b =>
      Value.int (withinTeam perTeam (number b))) ((w.players own).map Player.number) := by
    rw [List.forall₂_map_left_iff, List.forall₂_map_right_iff]
    exact stands.imp fun _ _ hp => hp.2.symm
  rw [List.forall₂_eq_eq_eq] at numbers
  exact ⟨stands.imp fun _ _ hp => hp.1, numbers.symm⟩

end Lineup

/-- Robots that are made on the bodies of a scene in which each has a number of its own see one
scene, wherever its bodies are meanwhile. A snapshot lists each other body once, teammates apart
from opponents, in the order of the scene, with the number that a robot on it has in its team; no
two players of a list share a number; teammates list each other, and each in its own pose. A look
has an answer whenever the bodies can be read and the look at the ball has one. -/
theorem snapshots_complete {s t : Session K} {perTeam : Int} {number : String → Nat}
    (h : s.Lineup perTeam number) (hrun : t.run.robotsPerTeam = s.run.robotsPerTeam) :
    ∀ body ∈ s.run.scene.bodies, ∃ r, s.makeRobot body = .ok r ∧
      (s.side perTeam number body true ++ s.side perTeam number body false).Perm
        (s.run.scene.bodies.erase body) ∧
      (∀ other ∈ s.run.scene.bodies, other ∈ s.side perTeam number body true ↔
        body ∈ s.side perTeam number other true) ∧
      ∀ name m,
        ((∀ other ∈ s.run.scene.bodies, ∃ p, t.poseOf other = .ok p) →
          ∀ seen u, t.sighting name { r with ball := m } = (.ok seen, u) →
            ∃ w, t.look name { r with ball := m } = (.ok w, u)) ∧
        ∀ w u, t.look name { r with ball := m } = (.ok w, u) → ∀ own,
          List.Forall₂ (s.StandsFor t r own) (s.side perTeam number body own) (w.players own) ∧
            ((w.players own).map Player.number).Nodup := by
  intro body hb
  obtain ⟨r, hr, hbody, hteam, hlisted⟩ := h.makeRobot hb
  refine ⟨r, hr, h.sides_perm body, fun other ho => ?_, fun name m => ⟨?_, ?_⟩⟩
  · rw [Lineup.mem_side, Lineup.mem_side]
    simp only [hb, ho, true_and, iff_true]
    rw [ne_comm, iff_comm (a := ((number other : Int) ≤ perTeam))]
  · intro readable seen u hs
    have same := sighting_scene_of_eq hs
    rw [look_of_sighting hs]
    suffices answers : ∃ w, u.snapshot { r with ball := m } seen = .ok w by
      obtain ⟨w, hw⟩ := answers
      exact ⟨w, by rw [hw]⟩
    rw [snapshot_answers_iff, same.poseOf]
    refine ⟨hbody ▸ readable body hb, fun first entry hentry => ?_⟩
    refine ⟨readable entry.body (Lineup.mem_roster hlisted hentry), ?_⟩
    rw [Session.shownNumber, same.run, hrun, h.perTeam]
    cases first <;> exact ⟨_, rfl⟩
  · intro w u hw own
    obtain ⟨hstands, hnumbers⟩ := h.players hrun hteam hlisted hw own
    refine ⟨hstands, ?_⟩
    have distinct := (h.withinTeam_nodup body own).map fun _ _ => @Value.int.inj K _ _
    rw [List.map_map] at distinct
    rw [hnumbers]
    exact distinct

def pitchNumber (body : String) : Nat := (robotNumber body).toOption.getD 0

theorem pitch_lineup : pitch.Lineup 1 pitchNumber where
  robots := rfl
  extras := rfl
  perTeam := rfl
  named := by decide +kernel
  distinct := by decide +kernel

/-- A robot of the second team sees its teammate among the extras, and the first team's robot. -/
theorem snapshots_complete_pitch : ∃ r w u, pitch.makeRobot "robot2" = .ok r ∧
    pitch.look "b" { r with ball := .fresh } = (.ok w, u) ∧
      List.Forall₂ (pitch.StandsFor pitch r true) ["robot3"] w.ownTeam ∧
      List.Forall₂ (pitch.StandsFor pitch r false) ["robot1"] w.opponents := by
  have poses : ∀ body ∈ pitch.run.scene.bodies, (pitch.poseOf body).isOk = true := by
    decide +kernel
  have looks : (pitch.makeRobot "robot2").toOption.map (fun r =>
      (pitch.sighting "b" { r with ball := .fresh }).1.isOk) = some true := by decide +kernel
  obtain ⟨r, hr, -, -, hlook⟩ := snapshots_complete pitch_lineup rfl "robot2" (by decide)
  obtain ⟨answers, complete⟩ := hlook "b" .fresh
  have readable : ∀ body ∈ pitch.run.scene.bodies, ∃ p, pitch.poseOf body = .ok p :=
    fun body hb => answers_of_isOk (poses body hb)
  rw [hr] at looks
  rcases hs : pitch.sighting "b" { r with ball := .fresh } with ⟨fault | seen, u⟩
  · simp [hs, Except.toOption, Except.isOk, Except.toBool] at looks
  · obtain ⟨w, hw⟩ := answers readable seen u hs
    have own : pitch.side 1 pitchNumber "robot2" true = ["robot3"] := by decide +kernel
    have others : pitch.side 1 pitchNumber "robot2" false = ["robot1"] := by decide +kernel
    exact ⟨r, w, u, hr, hw, own ▸ (complete w u hw true).1, others ▸ (complete w u hw false).1⟩

end RobotSoccer.Session
