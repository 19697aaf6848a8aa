import RobotSoccer.Value.Basic

/-! Values as rows: their items, and the grid that numbers in rows of rows make up. -/
namespace RobotSoccer

variable {K : Type} [Scalar K]

/-- The rows of a grid, or the entries of its only row. -/
def Grid.rows (g : Grid K) : List (Value K) :=
  match g.extents with
  | count :: inner :: extents =>
    (Grid.blocks count g.entries).map fun row => .grid ⟨inner :: extents, row⟩
  | _ => g.entries.map .real

namespace Value

/-- The items of a row of any kind. -/
def row? : Value K → Option (List (Value K))
  | list xs | tuple xs => some xs
  | grid g => some g.rows
  | _ => none

/-- The items of a row, the characters of a text, or the keys of a record. -/
def items (v : Value K) : Except Fault (List (Value K)) :=
  match v with
  | text s => .ok (s.toList.map fun c => text c.toString)
  | record fields => .ok (fields.map Prod.fst)
  | v => v.row?.elim (.error .wrongKind) .ok

/-- The first items of a row or a text. -/
def firstItems (count : Nat) : Value K → Except Fault (List (Value K))
  | record _ => .error .wrongKind
  | v => v.items.map (·.take count)

/-- The item at a position of a row or a text. -/
def item (position : Nat) : Value K → Except Fault (Value K)
  | record _ => .error .missingKey
  | v => do (← v.items)[position]?.elim (.error .tooShort) .ok

mutual

/-- The extents of rows of rows that have equal extents throughout. A value that is no row has
none. -/
def extents? : Value K → Option (List Nat)
  | .list [] | .tuple [] => some [0]
  | .list (x :: xs) | .tuple (x :: xs) => do
    let inner ← extents? x
    if ← haveExtents inner xs then some ((xs.length + 1) :: inner) else none
  | .grid g => some g.extents
  | _ => some []

def haveExtents (inner : List Nat) : List (Value K) → Option Bool
  | [] => some true
  | x :: xs => do
    if (← extents? x) = inner then haveExtents inner xs else none

end

mutual

/-- The values inside rows of rows. -/
def leaves : Value K → List (Value K)
  | .list xs | .tuple xs => leavesOfItems xs
  | .grid g => g.entries.map .real
  | v => [v]

def leavesOfItems : List (Value K) → List (Value K)
  | [] => []
  | x :: xs => leaves x ++ leavesOfItems xs

end

/-- Reads rows of rows as a grid, their leaves by `readLeaf`. Rows of unequal extents are none. -/
def readGrid (readLeaf : Value K → Except Fault K) (v : Value K) : Except Fault (Grid K) :=
  match v.extents? with
  | none => .error .unreadable
  | some extents => do return ⟨extents, ← v.leaves.mapM readLeaf⟩

/-- The grid that a number is, or rows of rows of numbers. -/
def asGrid (v : Value K) : Except Fault (Grid K) := v.readGrid asReal

end Value
end RobotSoccer
