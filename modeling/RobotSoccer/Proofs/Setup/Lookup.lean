import Mathlib.Data.List.Nodup
import RobotSoccer.Proofs.Setup.Entry

/-! Looking up the pose of a player: the first that is the player's, or the only one, whatever the
order of the list. -/
namespace RobotSoccer

open Double

/-- A number is this integer. -/
def Number.Is (number : Number Double) (n : Int) : Prop :=
  match number with
  | .int m => m = n
  | .real x => x.isFinite = true ∧ x.toRat = n

instance (number : Number Double) (n : Int) : Decidable (number.Is n) :=
  match number with
  | .int m => inferInstanceAs (Decidable (m = n))
  | .real x => inferInstanceAs (Decidable (x.isFinite = true ∧ x.toRat = n))

section Numbers

variable {number : Number Double} {m n : Int}

theorem Number.Is.unique (hm : number.Is m) (hn : number.Is n) : m = n := by
  cases number with
  | int k => exact hm.symm.trans hn
  | real x => exact_mod_cast hm.2.symm.trans hn.2

theorem Number.compare?_int_eq_iff : (Number.int n).compare? number = some .eq ↔ number.Is n := by
  cases number with
  | int m =>
    change some (compare n m) = some .eq ↔ m = n
    rw [Option.some.injEq, Int.compare_eq_eq, eq_comm]
  | real x =>
    cases x with
    | nan => exact ⟨nofun, fun h => nomatch h.1⟩
    | infinite s => cases s <;> exact ⟨nofun, fun h => nomatch h.1⟩
    | finite s k e h =>
      obtain ⟨q, hq⟩ : ∃ q, q = (Double.finite s k e h).toRat := ⟨_, rfl⟩
      have order : (Number.int n).compare? (.real (Double.finite s k e h)) =
          some (if q < n then .lt else if n < q then .gt else .eq : Ordering).swap := by
        rw [hq]
        rfl
      change _ ↔ true = true ∧ (Double.finite s k e h).toRat = n
      rw [order, ← hq, Option.some.injEq]
      rcases lt_trichotomy q n with hlt | heq | hgt
      · simp [hlt, hlt.ne]
      · simp [heq]
      · simp [hgt, hgt.not_gt, hgt.ne']

theorem Value.same_int_number {player : Value Double} (h : player.number? = some number) (n : Int) :
    (Value.int n).same player = .ok (decide (number.Is n)) := by
  have plain : (Value.int n).same player =
      .ok ((Number.int n).compare? number == some .eq) := by
    cases player with
    | bool b =>
      obtain rfl := Option.some.inj h
      rfl
    | int m =>
      obtain rfl := Option.some.inj h
      rfl
    | real x =>
      obtain rfl := Option.some.inj h
      rfl
    | _ => cases h
  rw [plain, Except.ok.injEq, Bool.eq_iff_iff, beq_iff_eq, decide_eq_true_eq,
    Number.compare?_int_eq_iff]

end Numbers

namespace SetupPose

variable {poses other before after : List (SetupPose Double)} {pose only : SetupPose Double}
  {player : Value Double} {number : Number Double} {warning : Option Fallback}

theorem findM?_eq (h : player.number? = some number) (poses : List (SetupPose Double)) :
    (poses.findM? fun pose => (Value.int pose.player).same player) =
      .ok (poses.find? fun pose => decide (number.Is pose.player)) := by
  simp only [Value.same_int_number h]
  exact List.findM?_pure _ _

theorem find_first (h : player.number? = some number) (hpose : number.Is pose.player)
    (hbefore : ∀ p ∈ before, ¬number.Is p.player) :
    find (before ++ pose :: after) player = .ok (pose, none) := by
  have found : (before ++ pose :: after).find? (fun p => decide (number.Is p.player)) =
      some pose := by
    refine List.find?_eq_some_iff_append.mpr ⟨decide_eq_true hpose, before, after, rfl, ?_⟩
    simpa using hbefore
  rw [find, findM?_eq h, found]
  rfl

theorem findM?_none (h : player.number? = some number)
    (hposes : ∀ p ∈ poses, ¬number.Is p.player) :
    (poses.findM? fun pose => (Value.int pose.player).same player) = .ok none := by
  rw [findM?_eq h, List.find?_eq_none.mpr]
  simpa using hposes

theorem find_only (h : player.number? = some number) (honly : ¬number.Is only.player) :
    find [only] player = .ok (only, some ⟨player.asInt.toOption, only.player⟩) := by
  rw [find, findM?_none h (by simpa using honly)]
  rfl

theorem find_none (h : player.number? = some number)
    (hposes : ∀ p ∈ poses, ¬number.Is p.player) (hlength : poses.length ≠ 1) :
    find poses player = .error (.noSetupPose player.display poses.length) := by
  rw [find, findM?_none h hposes]
  match poses with
  | [] => rfl
  | [only] => exact absurd rfl hlength
  | _ :: _ :: _ => rfl

theorem exists_first_or_none (number : Number Double) (poses : List (SetupPose Double)) :
    (∃ before pose after, poses = before ++ pose :: after ∧ number.Is pose.player ∧
      ∀ p ∈ before, ¬number.Is p.player) ∨ ∀ p ∈ poses, ¬number.Is p.player := by
  cases h : poses.find? fun p => decide (number.Is p.player) with
  | some pose =>
    obtain ⟨hpose, before, after, same, hbefore⟩ := List.find?_eq_some_iff_append.mp h
    exact .inl ⟨before, pose, after, same, of_decide_eq_true hpose, by simpa using hbefore⟩
  | none => exact .inr (by simpa using List.find?_eq_none.mp h)

/-- Among players of different numbers each is found wherever it stands. -/
theorem find_of_mem (h : player.number? = some number) (hnodup : (poses.map SetupPose.player).Nodup)
    (hmem : pose ∈ poses) (hpose : number.Is pose.player) :
    find poses player = .ok (pose, none) := by
  obtain ⟨before, first, after, rfl, hfirst, hbefore⟩ | hnone := exists_first_or_none number poses
  · have same : first = pose :=
      List.inj_on_of_nodup_map hnodup (by simp) hmem (hfirst.unique hpose)
    rw [find_first h hfirst hbefore, same]
  · exact absurd hpose (hnone pose hmem)

theorem find_perm (h : player.number? = some number)
    (hnodup : (poses.map SetupPose.player).Nodup) (hperm : poses.Perm other) :
    find other player = find poses player := by
  have hnodup' : (other.map SetupPose.player).Nodup := (hperm.map _).nodup_iff.mp hnodup
  obtain ⟨before, pose, after, same, hpose, -⟩ | hnone := exists_first_or_none number poses
  · have hmem : pose ∈ poses := by simp [same]
    rw [find_of_mem h hnodup hmem hpose, find_of_mem h hnodup' (hperm.subset hmem) hpose]
  · by_cases hlength : poses.length = 1
    · obtain ⟨only, rfl⟩ := List.length_eq_one_iff.mp hlength
      rw [List.singleton_perm.mp hperm]
    · have hnone' : ∀ p ∈ other, ¬number.Is p.player := fun p hp => hnone p (hperm.symm.subset hp)
      rw [find_none h hnone hlength, find_none h hnone' (hperm.length_eq ▸ hlength),
        hperm.length_eq]

/-- Whatever pose is found is in the list, and the player's own unless there is no other. -/
theorem mem_of_find (h : player.number? = some number) (hfind : find poses player = .ok (pose, warning)) :
    pose ∈ poses ∧ (¬number.Is pose.player → poses = [pose]) := by
  obtain ⟨before, first, after, rfl, hfirst, hbefore⟩ | hnone := exists_first_or_none number poses
  · rw [find_first h hfirst hbefore] at hfind
    cases hfind
    exact ⟨by simp, absurd hfirst⟩
  · by_cases hlength : poses.length = 1
    · obtain ⟨only, rfl⟩ := List.length_eq_one_iff.mp hlength
      rw [find_only h (hnone only (by simp))] at hfind
      cases hfind
      exact ⟨by simp, fun _ => rfl⟩
    · rw [find_none h hnone hlength] at hfind
      cases hfind

theorem asInt_of_converts {n : Int} (h : player.number? = some number) (hn : player.Converts n) :
    player.asInt = .ok n := by
  rw [← Value.readInt_eq_ok_iff] at hn
  cases player with
  | text s => cases h
  | _ => exact hn

/-- The warning names both numbers. -/
theorem find_only_warns (h : player.number? = some number) (honly : ¬number.Is only.player) :
    ∃ fallback, find [only] player = .ok (only, some fallback) ∧
      ∀ n, player.Converts n → fallback.text? =
        some s!"No setup pose for player {n}, using the only configured pose (player {only.player})" := by
  refine ⟨_, find_only h honly, fun n hn => ?_⟩
  rw [asInt_of_converts h hn]
  rfl

/-- Of the entries that give a player's number, the first one is found. -/
theorem find_of_reads {items : List (Value Double)} {entry : Value Double}
    (h : List.Forall₂ Reads items poses) (hentry : entry ∈ items) :
    ∃ player : Int, GivesPlayer entry player ∧ ∃ before first after pose,
      items = before ++ first :: after ∧ (∀ e ∈ before, ¬GivesPlayer e player) ∧
        Reads first pose ∧ pose.player = player ∧
          find poses (.int player) = .ok (pose, none) := by
  obtain ⟨own, hown, hreads⟩ := exists_of_forall₂ h hentry
  refine ⟨own.player, hreads.player, ?_⟩
  obtain ⟨before, pose, after, rfl, hpose, hbefore⟩ | hnone :=
    exists_first_or_none (.int own.player) poses
  · -- the list of entries is cut where that of poses is
    have htake := List.forall₂_take_append items before (pose :: after) h
    have hdrop := List.forall₂_drop_append items before (pose :: after) h
    obtain ⟨first, rest, hfirst, -, hcut⟩ := List.forall₂_cons_right_iff.mp hdrop
    refine ⟨items.take before.length, first, rest, pose, ?_, fun e he hgives => ?_, hfirst,
      hpose.symm, find_first rfl hpose hbefore⟩
    · rw [← hcut, List.take_append_drop]
    · obtain ⟨p, hp, hreads⟩ := exists_of_forall₂ htake he
      exact hbefore p hp (hgives.unique hreads.player)
  · exact absurd rfl (hnone own hown)

/-- The first pose of the player is found, else the only one, with a warning, else none. So the
order of the list does not matter unless players share a number, and of entries that share one the
first is found. -/
theorem setup_poses_looked_up :
    (∀ (poses : List (SetupPose Double)) (player : Value Double) (number : Number Double),
      player.number? = some number →
        (∀ before pose after, poses = before ++ pose :: after → number.Is pose.player →
          (∀ p ∈ before, ¬number.Is p.player) → find poses player = .ok (pose, none)) ∧
        ((∀ p ∈ poses, ¬number.Is p.player) →
          (∀ only, poses = [only] → ∃ fallback, find poses player = .ok (only, some fallback) ∧
            ∀ n, player.Converts n → fallback.text? = some
              s!"No setup pose for player {n}, using the only configured pose (player {only.player})") ∧
          (poses.length ≠ 1 →
            find poses player = .error (.noSetupPose player.display poses.length))) ∧
        (∀ other, (poses.map SetupPose.player).Nodup → poses.Perm other →
          find other player = find poses player) ∧
        ∀ pose warning, find poses player = .ok (pose, warning) →
          pose ∈ poses ∧ (¬number.Is pose.player → poses = [pose])) ∧
    ∀ (entries : Value Double) (poses : List (SetupPose Double)),
      listOfValue entries = .ok poses → ∃ items, entries.items = .ok items ∧
        ∀ entry ∈ items, ∃ player : Int, GivesPlayer entry player ∧ ∃ before first after pose,
          items = before ++ first :: after ∧ (∀ e ∈ before, ¬GivesPlayer e player) ∧
            Reads first pose ∧ pose.player = player ∧
              find poses (.int player) = .ok (pose, none) := by
  refine ⟨fun poses player number h => ⟨?_, fun hnone => ⟨?_, find_none h hnone⟩,
    fun other => find_perm h, fun pose warning => mem_of_find h⟩, fun entries poses h => ?_⟩
  · rintro before pose after rfl hpose hbefore
    exact find_first h hpose hbefore
  · rintro only rfl
    exact find_only_warns h (hnone only (by simp))
  · obtain ⟨items, hitems, hreads⟩ := reads_of_listOfValue h
    exact ⟨items, hitems, fun entry hentry => find_of_reads hreads hentry⟩

/-- An entry of a configured list, turned towards the centre. -/
def plannedEntry (player x y : Value Double) : Value Double :=
  .record [(.text "player_number", player), (.text "position", .list [x, y]),
    (.text "turned_towards", .list [.int 0, .int 0])]

/-- Two players, whose numbers are given as a real and as a text. -/
def plannedEntries : Value Double :=
  .list [plannedEntry (.real 2.9) (.int 0) (.int 1), plannedEntry (.text "7") (.int 1) (.int 0)]

def plannedPoses : List (SetupPose Double) := [⟨2, ⟨0.0, 1.0⟩, .zero⟩, ⟨7, ⟨1.0, 0.0⟩, .zero⟩]

theorem setup_poses_looked_up_planned :
    (plannedPoses.map SetupPose.player).Nodup ∧ plannedPoses.Perm plannedPoses.reverse ∧
      find plannedPoses.reverse (.real 7.0) = find plannedPoses (.real 7.0) ∧
      (∃ fallback, find plannedPoses.tail (.int 3) =
          .ok (⟨7, ⟨1.0, 0.0⟩, .zero⟩, some fallback) ∧
        fallback.text? = some
          "No setup pose for player 3, using the only configured pose (player 7)") ∧
      listOfValue plannedEntries = .ok plannedPoses ∧ ∃ items, plannedEntries.items = .ok items ∧
        ∀ entry ∈ items, ∃ (player : Int) (pose : SetupPose Double), GivesPlayer entry player ∧
          find plannedPoses (.int player) = .ok (pose, none) := by
  have nodup : (plannedPoses.map SetupPose.player).Nodup := by decide
  have perm : plannedPoses.Perm plannedPoses.reverse := plannedPoses.reverse_perm.symm
  have accepted : listOfValue plannedEntries = .ok plannedPoses := by decide +kernel
  refine ⟨nodup, perm, ?_, ?_, accepted, ?_⟩
  · exact (setup_poses_looked_up.1 plannedPoses (.real 7.0) (.real 7.0) rfl).2.2.1 _ nodup perm
  · obtain ⟨fallback, hfind, htext⟩ :=
      ((setup_poses_looked_up.1 plannedPoses.tail (.int 3) (.int 3) rfl).2.1 (by decide)).1 _ rfl
    exact ⟨fallback, hfind, htext 3 (.int 3)⟩
  · obtain ⟨items, hitems, hfound⟩ := setup_poses_looked_up.2 plannedEntries plannedPoses accepted
    refine ⟨items, hitems, fun entry hentry => ?_⟩
    obtain ⟨player, hgives, -, -, -, pose, -, -, -, -, hfind⟩ := hfound entry hentry
    exact ⟨player, pose, hgives, hfind⟩

end SetupPose
end RobotSoccer
