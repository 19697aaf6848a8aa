import Mathlib.Data.Rat.Floor
import Mathlib.Tactic.Linarith
import RobotSoccer.Proofs.Outcome
import RobotSoccer.Setup

/-! Entries of a configured list: which pose an entry is read as, and for which of its fields it is
refused. -/
namespace RobotSoccer

open Double

section Integers

/-- An integer no larger than a number, on the same side of zero and less than one away. -/
def IsTruncation (q : Rat) (n : Int) : Prop := |(n : Rat)| ≤ |q| ∧ |q - n| < 1

theorem isTruncation_iff_of_nonneg {q : Rat} {n : Int} (h : 0 ≤ q) :
    IsTruncation q n ↔ q.floor = n := by
  rw [IsTruncation, abs_of_nonneg h]
  constructor
  · rintro ⟨le, near⟩
    have lt : q < (n + 1 : Int) := by
      push_cast
      linarith [le_abs_self (q - n)]
    have := Rat.le_floor_iff.mpr ((le_abs_self (n : Rat)).trans le)
    have := Rat.floor_lt_iff.mpr lt
    omega
  · rintro rfl
    have low : (q.floor : Rat) ≤ q := Rat.le_floor_iff.mp le_rfl
    have high : q < q.floor + 1 := sub_lt_iff_lt_add.mp Rat.lt_floor
    have zero : (0 : Rat) ≤ q.floor := by exact_mod_cast Rat.le_floor_iff.mpr (by exact_mod_cast h)
    rw [abs_of_nonneg zero, abs_of_nonneg (sub_nonneg.mpr low)]
    exact ⟨low, sub_lt_iff_lt_add'.mpr high⟩

theorem isTruncation_neg {q : Rat} {n : Int} : IsTruncation (-q) (-n) ↔ IsTruncation q n := by
  have gap : |-q - (-n : Int)| = |q - n| := by
    rw [← abs_neg]
    congr 1
    push_cast
    ring
  have size : |((-n : Int) : Rat)| = |(n : Rat)| := by
    push_cast
    exact abs_neg _
  rw [IsTruncation, gap, size, abs_neg, IsTruncation]

theorem isTruncation_iff {q : Rat} {n : Int} :
    IsTruncation q n ↔ (if q < 0 then -(-q).floor else q.floor) = n := by
  split
  · next h =>
    rw [← isTruncation_neg, isTruncation_iff_of_nonneg (neg_nonneg.mpr h.le)]
    omega
  · next h => exact isTruncation_iff_of_nonneg (not_lt.mp h)

/-- The integer that a value is, truncates to, or spells. -/
inductive Value.Converts : Value Double → Int → Prop
  | bool (b : Bool) : Converts (.bool b) b.toNat
  | int (n : Int) : Converts (.int n) n
  | real {x : Double} {n : Int} (finite : x.isFinite = true) (whole : IsTruncation x.toRat n) :
    Converts (.real x) n
  | text {s : String} {n : Int} (spelled : readInt? s = some n) : Converts (.text s) n

theorem truncate_eq_ok_iff {x : Double} {n : Int} : Value.truncate x = .ok n ↔
    x.isFinite = true ∧ IsTruncation x.toRat n := by
  rw [isTruncation_iff]
  cases x with
  | nan => exact ⟨nofun, fun h => nomatch h.1⟩
  | infinite s => exact ⟨nofun, fun h => nomatch h.1⟩
  | finite s m e h =>
    exact ⟨fun same => ⟨rfl, Except.ok.inj same⟩, fun same => congrArg Except.ok same.2⟩

theorem Value.readInt_eq_ok_iff {v : Value Double} {n : Int} :
    v.readInt = .ok n ↔ v.Converts n := by
  constructor
  · intro h
    cases v with
    | bool b =>
      obtain rfl := Except.ok.inj h
      exact .bool b
    | int m =>
      obtain rfl := Except.ok.inj h
      exact .int m
    | real x =>
      obtain ⟨finite, whole⟩ := truncate_eq_ok_iff.mp h
      exact .real finite whole
    | text s =>
      cases spelled : RobotSoccer.readInt? s with
      | none =>
        rw [readInt, spelled] at h
        cases h
      | some m =>
        rw [readInt, spelled] at h
        obtain rfl := Except.ok.inj h
        exact .text spelled
    | _ => cases h
  · rintro (b | m | ⟨finite, whole⟩ | spelled)
    · rfl
    · rfl
    · exact truncate_eq_ok_iff.mpr ⟨finite, whole⟩
    · rw [readInt, spelled]
      rfl

theorem Value.Converts.unique {v : Value Double} {m n : Int} (hm : v.Converts m)
    (hn : v.Converts n) : m = n :=
  Except.ok.inj ((readInt_eq_ok_iff.mpr hm).symm.trans (readInt_eq_ok_iff.mpr hn))

end Integers

namespace SetupPose

variable {entry entries : Value Double} {pose : SetupPose Double} {poses : List (SetupPose Double)}

/-- The player's number that an entry gives. -/
def GivesPlayer (entry : Value Double) (player : Int) : Prop :=
  ∃ given, entry.field "player_number" = .ok given ∧ given.Converts player

/-- A pose is what an entry says, its player's number as an integer. -/
structure Reads (entry : Value Double) (pose : SetupPose Double) : Prop where
  player : GivesPlayer entry pose.player
  position : ∃ given, entry.field "position" = .ok given ∧ Vec2.ofValue given = .ok pose.position
  turnedTowards : ∃ given, entry.field "turned_towards" = .ok given ∧
    Vec2.ofValue given = .ok pose.turnedTowards

/-- What is wrong with the fields of an entry, in the order in which they are read. -/
def entryFaults (entry : Value Double) : List Fault :=
  faultsOf (entry.field "player_number" >>= Value.readInt) ++
    faultsOf (entry.field "position" >>= Vec2.ofValue) ++
      faultsOf (entry.field "turned_towards" >>= Vec2.ofValue)

theorem ofEntry_eq (entry : Value Double) : ofEntry entry =
    (entry.field "player_number" >>= Value.readInt) >>= fun player =>
      (entry.field "position" >>= Vec2.ofValue) >>= fun position =>
        (entry.field "turned_towards" >>= Vec2.ofValue) >>= fun turnedTowards =>
          .ok ⟨player, position, turnedTowards⟩ := by
  simp only [ofEntry, bind_assoc]
  rfl

theorem ofEntry_eq_ok_iff : ofEntry entry = .ok pose ↔ Reads entry pose := by
  rw [ofEntry_eq]
  constructor
  · intro h
    obtain ⟨player, hplayer, h⟩ := ok_of_bind h
    obtain ⟨position, hposition, h⟩ := ok_of_bind h
    obtain ⟨turnedTowards, hturned, h⟩ := ok_of_bind h
    obtain ⟨given, hgiven, hread⟩ := ok_of_bind hplayer
    cases h
    exact ⟨⟨given, hgiven, Value.readInt_eq_ok_iff.mp hread⟩, ok_of_bind hposition,
      ok_of_bind hturned⟩
  · rintro ⟨⟨number, hnumber, hplayer⟩, ⟨place, hplace, hposition⟩, ⟨target, htarget, hturned⟩⟩
    have player : entry.field "player_number" >>= Value.readInt = .ok pose.player := by
      rw [hnumber]
      exact Value.readInt_eq_ok_iff.mpr hplayer
    have position : entry.field "position" >>= Vec2.ofValue = .ok pose.position := by
      rw [hplace]
      exact hposition
    have turnedTowards : entry.field "turned_towards" >>= Vec2.ofValue =
        .ok pose.turnedTowards := by
      rw [htarget]
      exact hturned
    rw [player, position, turnedTowards]
    rfl

theorem GivesPlayer.unique {m n : Int} (hm : GivesPlayer entry m) (hn : GivesPlayer entry n) :
    m = n := by
  obtain ⟨given, hgiven, hm⟩ := hm
  obtain ⟨given', hgiven', hn⟩ := hn
  obtain rfl := Except.ok.inj (hgiven.symm.trans hgiven')
  exact hm.unique hn

/-- The poses of a list that is accepted are those of its entries, in order. -/
theorem reads_of_listOfValue (h : listOfValue entries = .ok poses) :
    ∃ items, entries.items = .ok items ∧ List.Forall₂ Reads items poses := by
  obtain ⟨items, hitems, h⟩ := ok_of_bind h
  refine ⟨items, hitems, ?_⟩
  split at h
  · cases h
  · exact (forall₂_of_mapM_ok h).imp fun _ _ => ofEntry_eq_ok_iff.mp

end SetupPose
end RobotSoccer
