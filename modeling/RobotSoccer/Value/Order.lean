import RobotSoccer.Value.Rows

/-! When two values are equal, and how they are ordered. A grid is compared with any other value
entry by entry, and the comparison has an answer only if there is one entry. -/
namespace RobotSoccer

variable {K : Type} [Scalar K]

/-- The only entries of a grid and of what it is compared with. -/
def Grid.onlyEntries (g : Grid K) (v : Value K) : Except Fault (K × Value K) :=
  match v.extents?, g.entries, v.leaves with
  | some _, [x], [y] => .ok (x, y)
  | _, _, _ => .error .unreadable

/-- Whether the only entry of a grid is equal to a value. -/
def Grid.same (g : Grid K) (v : Value K) : Except Fault Bool := do
  match ← g.onlyEntries v with
  | (x, y) => y.number?.elim (.ok false) fun n => do return Scalar.eq x (← n.toReal)

/-- The order of the only entry of a grid and a number. -/
def Grid.order? (g : Grid K) (v : Value K) : Except Fault (Option Ordering) := do
  let h ← v.asGrid
  match g.entries, h.entries with
  | [x], [y] => return Scalar.compare? x y
  | _, _ => .error .unreadable

namespace Value

mutual

/-- Numbers are equal by size, lists and tuples item by item, records key by key in any order. -/
def same : Value K → Value K → Except Fault Bool
  | grid g, v => g.same v
  | v, grid g => g.same v
  | list xs, list ys => if xs.length = ys.length then sameItems xs ys else .ok false
  | tuple xs, tuple ys => sameItems xs ys
  | record fs, record gs => if fs.length = gs.length then sameFields fs gs else .ok false
  | v, w => .ok (v.samePlain w)

def sameItems : List (Value K) → List (Value K) → Except Fault Bool
  | [], [] => .ok true
  | x :: xs, y :: ys => do if ← same x y then sameItems xs ys else return false
  | _, _ => .ok false

def sameFields : List (Value K × Value K) → List (Value K × Value K) → Except Fault Bool
  | [], _ => .ok true
  | (key, value) :: fs, gs => do
    let found ← gs.anyM fun g => do if ← same key g.1 then same value g.2 else return false
    if found then sameFields fs gs else return false

end

mutual

/-- The order of two values, `none` if they are equal in no order: of numbers by size, of texts by
characters, of rows of one kind by the first items that differ. -/
def order? : Value K → Value K → Except Fault (Option Ordering)
  | grid g, v => g.order? v
  | v, grid g => (g.order? v).map (·.map Ordering.swap)
  | text s, text t => .ok (some (compare s t))
  | list xs, list ys => orderItems? xs ys
  | tuple xs, tuple ys => orderItems? xs ys
  | v, w =>
    match v.number?, w.number? with
    | some m, some n => .ok (m.compare? n)
    | _, _ => .error .wrongKind

def orderItems? : List (Value K) → List (Value K) → Except Fault (Option Ordering)
  | [], [] => .ok (some .eq)
  | [], _ :: _ => .ok (some .lt)
  | _ :: _, [] => .ok (some .gt)
  | x :: xs, y :: ys => do if ← same x y then orderItems? xs ys else order? x y

end

/-- Whether `v < w`. -/
def lt? (v w : Value K) : Except Fault Bool := (v.order? w).map (· == some .lt)

/-- Whether `v ≤ w`. -/
def le? (v w : Value K) : Except Fault Bool :=
  (v.order? w).map fun order => order == some .lt || order == some .eq

theorem same_int (m n : Int) : (int m : Value K).same (.int n) = .ok (decide (m = n)) := by
  by_cases h : m = n <;> simp [same, samePlain, number?, Number.compare?, h]

theorem le?_int (m n : Int) : (int m : Value K).le? (.int n) = .ok (decide (m ≤ n)) := by
  simp only [le?, order?, number?, Number.compare?, Except.map, Except.ok.injEq]
  rw [Bool.eq_iff_iff]
  simp only [Option.some_beq_some, Bool.or_eq_true, beq_iff_eq, decide_eq_true_eq,
    Int.compare_eq_lt, Int.compare_eq_eq]
  omega

end Value
end RobotSoccer
