/-! Grids: entries in rows of rows that have equal extents throughout. Two grids are combined entry
by entry; an extent of one is stretched to the other grid's. -/
namespace RobotSoccer

structure Grid (α : Type) where
  extents : List Nat
  /-- All entries, row after row. -/
  entries : List α

namespace Grid

variable {α β γ δ : Type}

/-- Cuts the entries of some rows into those of each row. -/
def blocks (count : Nat) (entries : List α) : List (List α) :=
  let size := entries.length / count
  (List.range count).map fun n => (entries.drop (n * size)).take size

/-- Builds what the rows inside rows stand for. -/
def collect (leaf : α → δ) (row : List δ → δ) : (extents : List Nat) → (entries : List α) → δ
  | [], x :: _ => leaf x
  | [], [] => row []
  | count :: extents, entries => row ((blocks count entries).map (collect leaf row extents))

def map (f : α → β) (g : Grid α) : Grid β := ⟨g.extents, g.entries.map f⟩

/-- The extent that two extents are stretched to. -/
def commonExtent? (m n : Nat) : Option Nat :=
  if m = n || n = 1 then some m else if m = 1 then some n else none

/-- Extents with ones in front up to a length. -/
def deepen (depth : Nat) (extents : List Nat) : List Nat :=
  List.replicate (depth - extents.length) 1 ++ extents

/-- The extents that two grids are stretched to, matched from the last ones. -/
def commonExtents? (xs ys : List Nat) : Option (List Nat) :=
  let depth := max xs.length ys.length
  ((deepen depth xs).zip (deepen depth ys)).mapM fun pair => commonExtent? pair.1 pair.2

/-- Stretches entries from extents to extents of the same number. -/
def stretch : (present wanted : List Nat) → List α → List α
  | m :: present, n :: wanted, entries =>
    let rows := (blocks m entries).map (stretch present wanted)
    if m = n then rows.flatten else (List.replicate n rows.flatten).flatten
  | _, _, entries => entries

/-- Combines two grids, unless their extents differ and neither is one. -/
def zip? (f : α → β → γ) (g : Grid α) (h : Grid β) : Option (Grid γ) := do
  let extents ← commonExtents? g.extents h.extents
  let depth := extents.length
  let xs := stretch (deepen depth g.extents) extents g.entries
  let ys := stretch (deepen depth h.extents) extents h.entries
  return ⟨extents, xs.zipWith f ys⟩

/-- Puts words on lines of a width, the first of which is begun already. A word that does not fit
starts a line of its own. -/
def fill (separator indent : String) (width : Nat) : (line : String) → List String → String
  | line, [] => line
  | line, word :: rest =>
    let after := if rest.isEmpty then word else word ++ separator
    if width < line.length + word.length && indent.length < line.length then
      line.trimAsciiEnd.toString ++ "\n" ++ fill separator indent width (indent ++ after) rest
    else fill separator indent width (line ++ after) rest

/-- The text of rows inside rows, each in brackets, after a first line's indent. -/
def layout (separator : String) :
    (extents : List Nat) → (words : List String) → (indent : String) → (width : Nat) → String
  | [], words, _, _ => String.join words
  | [_], words, indent, width =>
    let lines := fill separator indent (width - 1) indent words
    "[" ++ (lines.drop indent.length).toString ++ "]"
  | count :: extents, words, indent, width =>
    let rows := (blocks count words).map fun row =>
      layout separator extents row (indent ++ " ") (width - 1)
    let lineEnd := separator.trimAsciiEnd.toString ++
      String.ofList (List.replicate extents.length '\n')
    "[" ++ (lineEnd ++ indent).intercalate rows ++ "]"

example : (zip? (· + ·) ⟨[2, 1], [10, 20]⟩ ⟨[3], [1, 2, 3]⟩).map entries =
    some [11, 12, 13, 21, 22, 23] := by decide
example : (zip? (· + ·) ⟨[2], [10, 20]⟩ ⟨[3], [1, 2, 3]⟩).isNone := by decide

end Grid
end RobotSoccer
