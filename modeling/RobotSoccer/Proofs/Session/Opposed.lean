import RobotSoccer.Proofs.Ball.HalfTurn
import RobotSoccer.Proofs.Session.Players

/-! Two observers of opposite teams. Whatever the host does between their looks, they see one world,
turned by half a turn. -/
namespace RobotSoccer

/-- What the host does between looks. -/
inductive HostAct (K : Type) where
  | write (body : String) (position rotation velocity : Option (Value K))
  | wait (time : Value K)

def HostAct.command {K : Type} : HostAct K → Command K
  | write body position rotation velocity => .host body none position rotation velocity
  | wait time => .tick time

/-- A round ends with a look of each robot, in either order, or with both forgetting the ball. -/
inductive Ending where
  | firstLooks | secondLooks | forget

structure Round (K : Type) where
  acts : List (HostAct K)
  ending : Ending

/-- The answer to a look, and the calls of the generator meanwhile. -/
structure Glance (K : Type) where
  answer : Except Fault (Reply K)
  drawn : List (K × K)

/-- The looks of both robots in one round. -/
structure Exchange (K : Type) where
  first : Glance K
  second : Glance K

namespace Session

variable {K : Type} [Scalar K]

def glance (s : Session K) (name : String) : Glance K × Session K :=
  let looked := s.step (.look name)
  (⟨looked.1, looked.2.generator.calls.drop s.generator.calls.length⟩, looked.2)

/-- Resets the robot's model. -/
def forget (s : Session K) (name : String) : Session K :=
  match s.robots.get? name with
  | some robot => s.setRobot name { robot with ball := .fresh }
  | none => s

def finish (s : Session K) (a b : String) : Ending → Option (Exchange K) × Session K
  | .firstLooks =>
    let x := s.glance a
    let y := x.2.glance b
    (some ⟨x.1, y.1⟩, y.2)
  | .secondLooks =>
    let y := s.glance b
    let x := y.2.glance a
    (some ⟨x.1, y.1⟩, x.2)
  | .forget => (none, (s.forget a).forget b)

/-- Carries out rounds in order. A round in which both robots look has an exchange. -/
def rounds (s : Session K) (a b : String) : List (Round K) → List (Option (Exchange K)) × Session K
  | [] => ([], s)
  | round :: rest =>
    let ended := ((s.steps (round.acts.map HostAct.command)).2).finish a b round.ending
    let others := ended.2.rounds a b rest
    (ended.1 :: others.1, others.2)

end Session

/-- Whether both looks answer, and how often the generator was called for the first one. -/
def Exchange.summary {K : Type} (x : Exchange K) : Bool × Nat :=
  (x.first.answer.isOk && x.second.answer.isOk, x.first.drawn.length)

/-- What two snapshots of opposite observers have in common: the ball, and each robot that both
list. -/
structure Snapshot.Opposed (A B : Robot Double) (w w' : Snapshot Double) : Prop where
  ball : ∃ seen seen', w.ball = some seen ∧ w'.ball = some seen' ∧
    seen.position = ⟨-seen'.position.x, -seen'.position.y, seen'.position.z⟩ ∧
    Ball.HalfTurned seen.velocity seen'.velocity
  complete : ∀ own, (w.players own).length = (A.listed own).length ∧
    (w'.players own).length = (B.listed own).length
  others : ∀ own own' (i j : Nat) (e e' : Numbered String), (A.listed own)[i]? = some e →
    (B.listed own')[j]? = some e' → e.body = e'.body → own' = !own ∧
      ∃ p p' : Player Double, (w.players own)[i]? = some p ∧ (w'.players own')[j]? = some p' ∧
        p.pose = p'.pose.opposite ∧ p.upright = p'.upright ∧ p.number = p'.number

/-- Wherever both looks answer, they show the world turned by half a turn, and both models agree. -/
def Exchange.Opposed (A B : Robot Double) (x : Exchange Double) : Prop :=
  ∀ w m c w' m' c', x.first.answer = .ok (.snapshot w m c) →
    x.second.answer = .ok (.snapshot w' m' c') →
      w.Opposed A B w' ∧ m.lastElapsed = m'.lastElapsed ∧ m.rolling = m'.rolling ∧
        x.first.drawn = x.second.drawn

namespace Session

section Players

variable {K : Type} [Scalar K] {s t : Session K}

theorem shows_opposed {first : Bool} {e e' : Numbered String} {p p' : Player K}
    (hpose : s.poseOf = t.poseOf) (hrun : s.run = t.run) (hbody : e.body = e'.body)
    (hnumber : e.number = e'.number) (h : s.Shows ⟨true⟩ first e p)
    (h' : t.Shows ⟨false⟩ first e' p') :
    p.pose = p'.pose.opposite ∧ p.upright = p'.upright ∧ p.number = p'.number := by
  obtain ⟨q, hq, hp⟩ := h.pose
  obtain ⟨q', hq', hp'⟩ := h'.pose
  rw [hpose, hbody, hq', Except.ok.injEq, Prod.mk.injEq] at hq
  obtain ⟨rfl, hupright⟩ := hq
  have hn := h.number
  have hn' := h'.number
  rw [shownNumber, hnumber, hrun] at hn
  rw [shownNumber, hn, Except.ok.injEq] at hn'
  refine ⟨?_, hupright.symm, hn'⟩
  rw [hp, hp']
  rfl

/-- A body that robots of both teams list has one number and stands on one side. -/
theorem listed_opposed {A B : Robot K} {nameOf : String → Value K} {perTeam : Value K}
    (hA : A.roster.Split nameOf perTeam) (hB : B.roster.Split nameOf perTeam)
    (first : A.team.isFirst = true) (second : B.team.isFirst = false) {own own' : Bool}
    {e e' : Numbered String} (he : e ∈ A.listed own) (he' : e' ∈ B.listed own')
    (hbody : e.body = e'.body) : e.number = e'.number ∧ own' = !own := by
  obtain ⟨hn, hside⟩ := hA _ e he
  obtain ⟨hn', hside'⟩ := hB _ e' he'
  rw [hbody, hn', Except.ok.injEq] at hn
  rw [← hn, hside', Except.ok.injEq, first, second] at hside
  refine ⟨hn.symm, ?_⟩
  cases own <;> cases own' <;> simp_all

end Players

section Looks

/-- A robot of each team, made in one session with a ball. -/
structure Opponents (s₀ : Session Double) (A B : Robot Double) (ball : String) : Prop where
  ball : s₀.run.ball = some ball
  reliable : s₀.generator.Reliable
  first : A.team.isFirst = true
  second : B.team.isFirst = false
  splitFirst : A.roster.Split s₀.nameOf s₀.run.robotsPerTeam
  splitSecond : B.roster.Split s₀.nameOf s₀.run.robotsPerTeam

variable {s₀ s t : Session Double} {A B : Robot Double} {m m' : Ball.Model Double}
  {a b ball : String}

/-- What two observers show of one scene. -/
theorem snapshots_opposed {w w' : Snapshot Double} {seen seen' : BallSighting Double}
    (hAB : Opponents s₀ A B ball) (hpose : s.poseOf = t.poseOf) (hrun : s.run = t.run)
    (h : s.snapshot { A with ball := m } (some seen) = .ok w)
    (h' : t.snapshot { B with ball := m' } (some seen') = .ok w')
    (hposition : seen.position = ⟨-seen'.position.x, -seen'.position.y, seen'.position.z⟩)
    (hvelocity : Ball.HalfTurned seen.velocity seen'.velocity) : w.Opposed A B w' := by
  obtain ⟨hball, hshown⟩ := snapshot_shows h
  obtain ⟨hball', hshown'⟩ := snapshot_shows h'
  have frameA : A.frame = ⟨true⟩ := congrArg Frame.mk hAB.first
  have frameB : B.frame = ⟨false⟩ := congrArg Frame.mk hAB.second
  refine ⟨⟨seen, seen', hball, hball', hposition, hvelocity⟩,
    fun own => ⟨(hshown own).length_eq.symm, (hshown' own).length_eq.symm⟩, ?_⟩
  intro own own' i j e e' he he' hbody
  obtain ⟨hnumber, hown⟩ := listed_opposed hAB.splitFirst hAB.splitSecond hAB.first hAB.second
    (List.mem_of_getElem? he) (List.mem_of_getElem? he') hbody
  refine ⟨hown, ?_⟩
  obtain ⟨p, hp, hshows⟩ := getElem?_of_forall₂ (hshown own) he
  obtain ⟨p', hp', hshows'⟩ := getElem?_of_forall₂ (hshown' own') he'
  refine ⟨p, p', hp, hp', ?_⟩
  have side : (own == A.team.isFirst) = (own' == B.team.isFirst) := by
    rw [hAB.first, hAB.second, hown]
    cases own <;> rfl
  rw [side] at hshows
  change s.Shows A.frame _ e p at hshows
  change t.Shows B.frame _ e' p' at hshows'
  rw [frameA] at hshows
  rw [frameB] at hshows'
  exact shows_opposed hpose hrun hbody hnumber hshows hshows'

/-- Two looks at one scene feed both models alike, and their answers show one world. -/
theorem looks_opposed (hAB : Opponents s₀ A B ball) (hscene : s.SameScene t)
    (hrun : s.run = s₀.run) (ha : s.robots.get a = .ok { A with ball := m })
    (hb : t.robots.get b = .ok { B with ball := m' }) (hmodels : Ball.halfTurn.Models m m')
    (hs : s.generator.script = s₀.generator.script)
    (ht : t.generator.script = s₀.generator.script) :
    ∃ n n' calls, Ball.halfTurn.Models n n' ∧
      s.Looked (s.step (.look a)).2 a { A with ball := n } calls ∧
      t.Looked (t.step (.look b)).2 b { B with ball := n' } calls ∧
      ∀ w k c w' k' c', (s.step (.look a)).1 = .ok (.snapshot w k c) →
        (t.step (.look b)).1 = .ok (.snapshot w' k' c') → w.Opposed A B w' ∧ k = n ∧ k' = n' := by
  have hball : s.run.ball = some ball := by rw [hrun, hAB.ball]
  have hball' : t.run.ball = some ball := by rw [hscene.run, hball]
  cases hplace : s.ballPlace ball with
  | error fault =>
    have hplace' : t.ballPlace ball = .error fault := by rw [hscene.ballPlace, hplace]
    refine ⟨m, m', [], hmodels, looked_unseen ha hball hplace, looked_unseen hb hball' hplace', ?_⟩
    intro w k c w' k' c' h
    rw [step_look_unseen ha hball hplace] at h
    cases h
  | ok seen =>
    have hplace' : t.ballPlace ball = .ok seen := by rw [hscene.ballPlace, hplace]
    have frameA : A.frame.position seen = ⟨-seen.x, -seen.y, seen.z⟩ := by
      rw [Robot.frame, hAB.first]
      rfl
    have frameB : B.frame.position seen = seen := by
      rw [Robot.frame, hAB.second]
      rfl
    have hplaces : Ball.halfTurn.position (A.frame.position seen) (B.frame.position seen) := by
      rw [frameA, frameB]
      rfl
    have hupdate := hmodels.update hplaces s.clock fun spread =>
      (hAB.reliable.of_script hs).agree (ht.trans hs.symm) 0.0 spread
    generalize hu : m.update s.generator (A.frame.position seen) s.clock = u at hupdate
    generalize hu' : m'.update t.generator (B.frame.position seen) s.clock = u' at hupdate
    rw [← hscene.clock] at hu'
    obtain ⟨houtcome, hmodels, calls, hcalls, hcalls'⟩ := hupdate
    have hlooked := looked_seen ha hball hplace hu hcalls
    have hlooked' := looked_seen hb hball' hplace' hu' hcalls'
    refine ⟨u.model, u'.model, calls, hmodels, hlooked, hlooked', ?_⟩
    intro w k c w' k' c' h h'
    obtain ⟨hk, velocity, hv, hw⟩ := step_look_seen ha hball hplace hu h
    obtain ⟨hk', velocity', hv', hw'⟩ := step_look_seen hb hball' hplace' hu' h'
    change (s.step (.look a)).2.snapshot _ (some ⟨A.frame.position seen, velocity⟩) = _ at hw
    change (t.step (.look b)).2.snapshot _ (some ⟨B.frame.position seen, velocity'⟩) = _ at hw'
    rw [frameA] at hw
    rw [frameB] at hw'
    rw [hv, hv'] at houtcome
    cases houtcome with
    | ok hvelocity =>
      refine ⟨snapshots_opposed hAB ?_ ?_ hw hw' rfl hvelocity, hk, hk'⟩
      · rw [hlooked.scene.poseOf, hlooked'.scene.poseOf, hscene.poseOf]
      · rw [hlooked.scene.run, hlooked'.scene.run, hscene.run]

/-- What rounds keep: the run, the script, and two robots whose models are fed from both sides. -/
structure Facing (s₀ : Session Double) (A B : Robot Double) (a b : String) (s : Session Double) :
    Prop where
  run : s.run = s₀.run
  script : s.generator.script = s₀.generator.script
  models : ∃ m m', s.robots.get a = .ok { A with ball := m } ∧
    s.robots.get b = .ok { B with ball := m' } ∧ Ball.halfTurn.Models m m'

theorem hostAct_kept (s : Session Double) (act : HostAct Double) :
    (s.step act.command).2.run = s.run ∧ (s.step act.command).2.robots = s.robots ∧
      (s.step act.command).2.generator = s.generator := by
  cases act with
  | write body position rotation velocity =>
    rw [HostAct.command, step]
    cases s.bodies.get body <;> exact ⟨rfl, rfl, rfl⟩
  | wait time =>
    rw [HostAct.command, step]
    cases s.clock.advance time <;> exact ⟨rfl, rfl, rfl⟩

theorem Facing.of_same (h : Facing s₀ A B a b s) (hrun : t.run = s.run)
    (hrobots : t.robots = s.robots) (hgenerator : t.generator = s.generator) :
    Facing s₀ A B a b t := by
  refine ⟨hrun.trans h.run, ?_, ?_⟩
  · rw [hgenerator, h.script]
  · rw [hrobots]
    exact h.models

theorem Facing.acts (h : Facing s₀ A B a b s) (acts : List (HostAct Double)) :
    Facing s₀ A B a b (s.steps (acts.map HostAct.command)).2 := by
  induction acts generalizing s with
  | nil => exact h
  | cons act rest ih =>
    obtain ⟨hrun, hrobots, hgenerator⟩ := hostAct_kept s act
    exact ih (h.of_same hrun hrobots hgenerator)

theorem forget_eq {name : String} {robot : Robot Double} (h : s.robots.get name = .ok robot) :
    s.forget name = s.setRobot name { robot with ball := .fresh } := by
  rw [Session.forget, Table.some_of_get h]

theorem Facing.forget (h : Facing s₀ A B a b s) (hab : a ≠ b) :
    Facing s₀ A B a b ((s.forget a).forget b) := by
  obtain ⟨m, m', ha, hb, -⟩ := h.models
  rw [forget_eq ha, forget_eq (s := s.setRobot a _) ((Table.get_set_of_ne _ _ hab.symm).trans hb)]
  refine ⟨h.run, h.script, .fresh, .fresh, ?_, ?_, Ball.Likeness.fresh _⟩
  · exact (Table.get_set_of_ne _ _ hab).trans (Table.get_set_self _ _ _)
  · exact Table.get_set_self _ _ _

/-- The calls of the generator during a glance are those of the look. -/
theorem glance_eq {name : String} {after : Robot Double} {calls : List (Double × Double)}
    (h : s.Looked (s.step (.look name)).2 name after calls) :
    s.glance name = (⟨(s.step (.look name)).1, calls⟩, (s.step (.look name)).2) := by
  have hdrop : (s.step (.look name)).2.generator.calls.drop s.generator.calls.length = calls := by
    rw [h.generator, List.drop_left]
  simp only [Session.glance, hdrop]

theorem exchange_opposed {n n' : Ball.Model Double} {x y : Except Fault (Reply Double)}
    (calls : List (Double × Double)) (hn : Ball.halfTurn.Models n n')
    (h : ∀ w k c w' k' c', x = .ok (.snapshot w k c) → y = .ok (.snapshot w' k' c') →
      w.Opposed A B w' ∧ k = n ∧ k' = n') : Exchange.Opposed A B ⟨⟨x, calls⟩, ⟨y, calls⟩⟩ := by
  intro w k c w' k' c' hx hy
  obtain ⟨hw, rfl, rfl⟩ := h w k c w' k' c' hx hy
  exact ⟨hw, hn.lastElapsed, hn.rolling, rfl⟩

/-- The end of a round keeps the robots facing, and its looks show one world. -/
theorem Facing.finish (h : Facing s₀ A B a b s) (hAB : Opponents s₀ A B ball) (hab : a ≠ b)
    (ending : Ending) : Facing s₀ A B a b (s.finish a b ending).2 ∧
      ∀ x, (s.finish a b ending).1 = some x → x.Opposed A B := by
  obtain ⟨m, m', ha, hb, hmodels⟩ := h.models
  have hball : s.run.ball = some ball := by rw [h.run, hAB.ball]
  cases ending with
  | firstLooks =>
    -- the first look is known to keep the scene before it is known to be fed like the second one
    obtain ⟨_, _, hl⟩ := looked ha hball
    have ht := (congrArg Generator.script hl.generator).trans h.script
    obtain ⟨n, n', calls, hn, hx, hy, hanswers⟩ := looks_opposed hAB hl.scene h.run ha
      ((hl.others b hab.symm).trans hb) hmodels h.script ht
    simp only [Session.finish, glance_eq hx, glance_eq hy]
    refine ⟨⟨hy.scene.run.trans (hx.scene.run.trans h.run), ?_, n, n', ?_, hy.robot, hn⟩, ?_⟩
    · rw [hy.generator, ht]
    · rw [hy.others a hab, hx.robot]
    · rintro x ⟨⟩
      exact exchange_opposed calls hn hanswers
  | secondLooks =>
    obtain ⟨_, _, hl⟩ := looked hb hball
    have ht := (congrArg Generator.script hl.generator).trans h.script
    obtain ⟨n, n', calls, hn, hx, hy, hanswers⟩ := looks_opposed hAB hl.scene.symm
      (hl.scene.run.trans h.run) ((hl.others a hab).trans ha) hb hmodels ht h.script
    simp only [Session.finish, glance_eq hx, glance_eq hy]
    refine ⟨⟨hx.scene.run.trans (hy.scene.run.trans h.run), ?_, n, n', hx.robot, ?_, hn⟩, ?_⟩
    · rw [hx.generator, ht]
    · rw [hx.others b hab.symm, hy.robot]
    · rintro x ⟨⟩
      exact exchange_opposed calls hn hanswers
  | forget => exact ⟨h.forget hab, fun x hx => by cases hx⟩

theorem Facing.rounds (h : Facing s₀ A B a b s) (hAB : Opponents s₀ A B ball) (hab : a ≠ b)
    (rounds : List (Round Double)) : ∀ x, some x ∈ (s.rounds a b rounds).1 → x.Opposed A B := by
  induction rounds generalizing s with
  | nil =>
    intro x hx
    cases hx
  | cons round rest ih =>
    intro x hx
    obtain ⟨hkept, hopposed⟩ := (h.acts round.acts).finish hAB hab round.ending
    rcases List.mem_cons.mp hx with hx | hx
    · exact hopposed x hx.symm
    · exact ih hkept x hx

end Looks

/-- Two robots of opposite teams, made in one session with a ball and a generator that refuses
nothing but a spread with a minus sign, see one world turned by half a turn in every round in which
both looks answer, whatever the host does between the looks. -/
theorem opposite_robots_see_one_world {s : Session Double} {A B : Robot Double}
    {a b bodyA bodyB ball : String} (hball : s.run.ball = some ball)
    (reliable : s.generator.Reliable) (hA : s.makeRobot bodyA = .ok A)
    (hB : s.makeRobot bodyB = .ok B) (first : A.team.isFirst = true)
    (second : B.team.isFirst = false) (hab : a ≠ b) (rounds : List (Round Double)) :
    ∀ x, some x ∈ (((s.setRobot a A).setRobot b B).rounds a b rounds).1 → x.Opposed A B := by
  have hAB : Opponents s A B ball :=
    ⟨hball, reliable, first, second, makeRobot_split hA, makeRobot_split hB⟩
  have hfacing : Facing s A B a b ((s.setRobot a A).setRobot b B) := by
    refine ⟨rfl, rfl, A.ball, B.ball, ?_, Table.get_set_self _ _ _, ?_⟩
    · exact (Table.get_set_of_ne _ _ hab).trans (Table.get_set_self _ _ _)
    · rw [makeRobot_fresh hA, makeRobot_fresh hB]
      exact Ball.Likeness.fresh _
  exact hfacing.rounds hAB hab rounds

/-- A resting body on the plane. -/
def restingAt (name : String) (x y heading : Double) : String × Body Double :=
  (name, ⟨.planar, .text name, .list [.real x, .real y], .real heading, Body.rest .planar, 0, 0⟩)

/-- One robot against two, and a ball. -/
def pitch : Session Double :=
  .start ⟨.planar, .int 1, .int 40, .real 0.0, ⟨⟨true, ["robot1", "robot2"]⟩, ⟨true, ["robot3"]⟩⟩,
      some "ball"⟩
    ⟨[restingAt "robot1" 1.0 0.5 0.0, restingAt "robot2" (-1.0) 0.0 1.5,
      restingAt "robot3" (-2.0) 0.25 (-1.5), restingAt "ball" 0.0 0.0 0.0]⟩
    (.int 0) (.ofScript [.real 1.0])

/-- The ball starts to roll, is forgotten, and is found again. -/
def rollingRounds : List (Round Double) :=
  [⟨[], .firstLooks⟩,
    ⟨[.wait (.int 40), .write "ball" (some (.list [.real 0.1, .real 0.0])) none none],
      .secondLooks⟩,
    ⟨[], .forget⟩, ⟨[], .firstLooks⟩]

theorem pitch_reliable : pitch.generator.Reliable :=
  Generator.reliable_ofScript (by simp) (by simpa using ⟨1.0, rfl⟩)

/-- The two robots on the pitch and what they see in the rounds. -/
def pitchRun : Except Fault (Robot Double × Robot Double × List (Option (Exchange Double))) := do
  let A ← pitch.makeRobot "robot1"
  let B ← pitch.makeRobot "robot2"
  return (A, B, (((pitch.setRobot "a" A).setRobot "b" B).rounds "a" "b" rollingRounds).1)

theorem opposite_robots_see_one_world_rolling :
    ∃ A B seen, pitchRun = .ok (A, B, seen) ∧
      seen.map (Option.map Exchange.summary) =
        [some (true, 0), some (true, 1), none, some (true, 0)] ∧
      ∀ x, some x ∈ seen → x.Opposed A B := by
  have run : pitchRun.toOption.map (fun r =>
      (r.1.team.isFirst, r.2.1.team.isFirst, r.2.2.map (Option.map Exchange.summary))) =
      some (true, false, [some (true, 0), some (true, 1), none, some (true, 0)]) := by
    decide +kernel
  cases hrun : pitchRun with
  | error fault =>
    rw [hrun] at run
    cases run
  | ok r =>
    rw [hrun] at run
    obtain ⟨A, hA, h⟩ := ok_of_bind hrun
    obtain ⟨B, hB, h⟩ := ok_of_bind h
    cases h
    obtain ⟨first, second, hseen⟩ : _ ∧ _ ∧ _ := by simpa using Option.some.inj run
    exact ⟨A, B, _, rfl, by simpa using hseen, opposite_robots_see_one_world rfl pitch_reliable
      hA hB first second (by decide) rollingRounds⟩

end Session
end RobotSoccer
