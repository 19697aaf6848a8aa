/-! Places in the text of a document: what is still to be read, and the line and column it is at. -/
namespace RobotSoccer.Document

structure Cursor where
  rest : List Char
  /-- The number of characters before this place. -/
  index : Nat
  line : Nat
  column : Nat

def isBreak (c : Char) : Bool := c = '\n' || c = '\x85' || c = '\u2028' || c = '\u2029'

/-- Line breaks are read as newlines, except for the separators of lines and paragraphs. -/
def breakText (c : Char) : Char := if c = '\x85' then '\n' else c

/-- Whether a character, or the end of the text, ends a word. -/
def endsWord : Option Char → Bool
  | none => true
  | some c => c = ' ' || c = '\t' || isBreak c

/-- Characters that a document may contain. -/
def isPrintable (c : Char) : Bool :=
  let n := c.toNat
  n = 9 || n = 10 || n = 13 || (0x20 ≤ n && n ≤ 0x7E) || n = 0x85 || (0xA0 ≤ n && n ≤ 0xFFFD) ||
    0x10000 ≤ n

/-- Ends all lines of a text by newlines. -/
def unifyLines : List Char → List Char
  | '\r' :: '\n' :: rest => '\n' :: unifyLines rest
  | '\r' :: rest => '\n' :: unifyLines rest
  | c :: rest => c :: unifyLines rest
  | [] => []

namespace Cursor

/-- The byte order mark before the text is passed over. -/
def start (text : List Char) : Cursor :=
  match text with
  | '\ufeff' :: rest => ⟨rest, 1, 0, 0⟩
  | _ => ⟨text, 0, 0, 0⟩

def peek (c : Cursor) (n : Nat) : Option Char := c.rest[n]?

def next (c : Cursor) : Cursor :=
  match c.rest with
  | [] => c
  | x :: rest =>
    if isBreak x then ⟨rest, c.index + 1, c.line + 1, 0⟩
    else ⟨rest, c.index + 1, c.line, if x = '\ufeff' then c.column else c.column + 1⟩

def advance : Nat → Cursor → Cursor
  | 0, c => c
  | n + 1, c => advance n c.next

/-- Whether the next characters are one thrice and then the end of a word. -/
def atTriple (mark : Char) (c : Cursor) : Bool :=
  c.rest.take 3 == [mark, mark, mark] && endsWord (c.peek 3)

/-- Whether a document starts or ends here. -/
def atMarker (c : Cursor) : Bool := c.atTriple '-' || c.atTriple '.'

/-- Passes over blanks, comments and line breaks, and says whether there was a line break. -/
def skip : (fuel : Nat) → Cursor → Bool → Cursor × Bool
  | 0, c, crossed => (c, crossed)
  | fuel + 1, c, crossed =>
    match c.rest with
    | ' ' :: _ => skip fuel c.next crossed
    | '#' :: rest => skip fuel (c.advance (1 + (rest.takeWhile (!isBreak ·)).length)) crossed
    | x :: _ => if isBreak x then skip fuel c.next true else (c, crossed)
    | [] => (c, crossed)

/-- Reads the line breaks that follow a first one, with the blanks at the starts of their lines.
At a document's start or end there are none to be read. -/
def breaks (isBlank : Char → Bool) : (fuel : Nat) → Cursor → Option (List Char) × Cursor
  | 0, c => (some [], c)
  | fuel + 1, c =>
    if c.atMarker then (none, c)
    else
      let c := c.advance (c.rest.takeWhile isBlank).length
      match c.rest with
      | x :: _ =>
        if isBreak x then
          let (more, c) := breaks isBlank fuel c.next
          (more.map (breakText x :: ·), c)
        else (some [], c)
      | [] => (some [], c)

end Cursor

/-- The text that a first line break and the breaks after it stand for. -/
def foldBreaks (first : Char) (more : List Char) : List Char :=
  if breakText first ≠ '\n' then breakText first :: more
  else if more.isEmpty then [' ']
  else more

end RobotSoccer.Document
