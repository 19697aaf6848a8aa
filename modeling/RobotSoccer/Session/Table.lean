import RobotSoccer.Fault

/-! Tables of named entries, in the order in which the names came. -/
namespace RobotSoccer

structure Table (α : Type) where
  entries : List (String × α)

namespace Table

variable {α : Type}

def empty : Table α := ⟨[]⟩

def findEntry? (name : String) : List (String × α) → Option α
  | [] => none
  | entry :: rest => if entry.1 = name then some entry.2 else findEntry? name rest

def get? (t : Table α) (name : String) : Option α := findEntry? name t.entries

def get (t : Table α) (name : String) : Except Fault α :=
  (t.get? name).elim (.error .missingKey) .ok

def setEntry (name : String) (value : α) : List (String × α) → List (String × α)
  | [] => [(name, value)]
  | entry :: rest =>
    if entry.1 = name then (name, value) :: rest else entry :: setEntry name value rest

/-- Gives a name a new value; a new name comes last. -/
def set (t : Table α) (name : String) (value : α) : Table α := ⟨setEntry name value t.entries⟩

@[simp] theorem get?_set_self (t : Table α) (name : String) (value : α) :
    (t.set name value).get? name = some value := by
  obtain ⟨entries⟩ := t
  simp only [set, get?]
  induction entries with
  | nil => simp [setEntry, findEntry?]
  | cons entry rest ih =>
    by_cases h : entry.1 = name <;> simp [setEntry, findEntry?, h, ih]

theorem get?_set_of_ne (t : Table α) {name other : String} (value : α) (h : other ≠ name) :
    (t.set name value).get? other = t.get? other := by
  obtain ⟨entries⟩ := t
  simp only [set, get?]
  induction entries with
  | nil => simp [setEntry, findEntry?, h.symm]
  | cons entry rest ih =>
    by_cases same : entry.1 = name
    · simp [setEntry, findEntry?, same, h.symm]
    · simp [setEntry, findEntry?, same, ih]

theorem get_of_some {t : Table α} {name : String} {value : α} (h : t.get? name = some value) :
    t.get name = .ok value := by
  rw [get, h]
  rfl

theorem some_of_get {t : Table α} {name : String} {value : α} (h : t.get name = .ok value) :
    t.get? name = some value := by
  rw [get] at h
  cases hg : t.get? name with
  | none =>
    rw [hg] at h
    cases h
  | some other =>
    rw [hg] at h
    cases h
    rfl

theorem get_set_self (t : Table α) (name : String) (value : α) :
    (t.set name value).get name = .ok value := get_of_some (t.get?_set_self name value)

theorem get_set_of_ne (t : Table α) {name other : String} (value : α) (h : other ≠ name) :
    (t.set name value).get other = t.get other := by
  rw [get, get, t.get?_set_of_ne value h]

/-- The value that a name has already changes nothing. -/
theorem set_of_get {t : Table α} {name : String} {value : α} (h : t.get name = .ok value) :
    t.set name value = t := by
  have found := some_of_get h
  clear h
  obtain ⟨entries⟩ := t
  simp only [get?, set, mk.injEq] at found ⊢
  induction entries with
  | nil => cases found
  | cons entry rest ih =>
    by_cases same : entry.1 = name
    · simp only [same, findEntry?, if_true, Option.some.injEq] at found
      rw [setEntry, if_pos same, ← found, ← same]
    · simp only [same, findEntry?, if_false] at found
      rw [setEntry, if_neg same, ih found]

end Table
end RobotSoccer
