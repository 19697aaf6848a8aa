import RobotSoccer.Document.Cursor
import RobotSoccer.Fault

/-! Scalars in a document: plain ones, which go on as long as nothing ends them, and quoted ones.
Line breaks inside them are folded. -/
namespace RobotSoccer.Document

/-- The punctuation of flow collections. -/
def flowMarks : List Char := [',', '[', ']', '\x7b', '\x7d']

/-- What starts something else than a plain scalar. -/
def indicators : List Char := "-?:,[]\x7b\x7d#&*!|>'\"%@\x60".toList

/-- Whether a plain scalar ends before `c`, with `next` after it. Inside flow collections their
punctuation ends it too. -/
def endsPlain (inFlow : Bool) (c : Char) (next : Option Char) : Bool :=
  endsWord (some c) ||
    (c = ':' && (endsWord next || (inFlow && next.any (flowMarks.contains ·)))) ||
    (inFlow && (c = '?' || flowMarks.contains c))

def plainWord (inFlow : Bool) : List Char → List Char
  | [] => []
  | c :: rest => if endsPlain inFlow c rest.head? then [] else c :: plainWord inFlow rest

/-- Whether a plain scalar may start with `c`, with `next` after it. -/
def startsPlain (inFlow : Bool) (c : Char) (next : Option Char) : Bool :=
  !(endsWord (some c) || indicators.contains c) ||
    (!endsWord next && (c = '-' || (!inFlow && (c = '?' || c = ':'))))

/-- What separates two words of a plain scalar, and whether it crosses a line. It is empty where the
scalar ends. -/
def plainGap (c : Cursor) : List Char × Cursor × Bool :=
  let blanks := c.rest.takeWhile (· = ' ')
  let c := c.advance blanks.length
  match c.rest with
  | x :: _ =>
    if isBreak x then
      let c := c.next
      match c.breaks (· = ' ') (c.rest.length + 1) with
      | (none, c) => ([], c, true)
      | (some more, c) => (foldBreaks x more, c, true)
    else (blanks, c, false)
  | [] => (blanks, c, false)

/-- Reads the words of a plain scalar. Outside flow collections a line that is indented by less than
`indent` ends it. The last part says whether the last gap crossed a line. -/
def plainWords (inFlow : Bool) (indent : Int) :
    (fuel : Nat) → Cursor → (gap text : List Char) → (crossed : Bool) → List Char × Cursor × Bool
  | 0, c, _, text, crossed => (text, c, crossed)
  | fuel + 1, c, gap, text, crossed =>
    let word := plainWord inFlow c.rest
    if c.peek 0 = some '#' || word.isEmpty then (text, c, crossed)
    else
      let text := text ++ gap ++ word
      let (gap, c, crossed) := plainGap (c.advance word.length)
      if gap.isEmpty || c.peek 0 = some '#' || (!inFlow && (c.column : Int) < indent) then
        (text, c, crossed)
      else plainWords inFlow indent fuel c gap text crossed

/-- Reads a plain scalar, and says whether it ends after a line break. -/
def scanPlain (inFlow : Bool) (indent : Int) (c : Cursor) : String × Cursor × Bool :=
  let (text, c, crossed) := plainWords inFlow indent (c.rest.length + 1) c [] [] false
  (String.ofList text, c, crossed)

/-- The characters that a backslash and one more character stand for. -/
def escapes : List (Char × Char) :=
  [('0', '\x00'), ('a', '\x07'), ('b', '\x08'), ('t', '\t'), ('\t', '\t'), ('n', '\n'),
   ('v', '\x0b'), ('f', '\x0c'), ('r', '\r'), ('e', '\x1b'), (' ', ' '), ('"', '"'), ('\\', '\\'),
   ('/', '/'), ('N', '\x85'), ('_', '\xa0'), ('L', '\u2028'), ('P', '\u2029')]

/-- The number of hexadecimal digits after a backslash and a letter. -/
def escapeWidth? : Char → Option Nat
  | 'x' => some 2
  | 'u' => some 4
  | 'U' => some 8
  | _ => none

def hexValue? (c : Char) : Option Nat :=
  if '0' ≤ c ∧ c ≤ '9' then some (c.toNat - '0'.toNat)
  else if 'a' ≤ c ∧ c ≤ 'f' then some (c.toNat - 'a'.toNat + 10)
  else if 'A' ≤ c ∧ c ≤ 'F' then some (c.toNat - 'A'.toNat + 10)
  else none

/-- The character of a code in hexadecimal digits. -/
def readCode (width : Nat) (cs : List Char) : Except Fault Char := do
  let digits := (cs.take width).filterMap hexValue?
  if digits.length < width then .error .malformedDocument
  else
    let code := digits.foldl (fun n d => 16 * n + d) 0
    if 0x7FFFFFFF < code then .error .overflow
    else if 0x10FFFF < code then .error .unreadable
    else return Char.ofNat code

/-- Reads what follows a backslash. -/
def scanEscape (c : Cursor) : Except Fault (List Char × Cursor) := do
  match c.rest with
  | [] => .error .malformedDocument
  | x :: rest =>
    match escapes.lookup x, escapeWidth? x with
    | some y, _ => return ([y], c.next)
    | none, some width => return ([← readCode width rest], c.advance (width + 1))
    | none, none =>
      if isBreak x then
        match c.next.breaks (fun y => y = ' ' || y = '\t') (rest.length + 1) with
        | (some more, c) => return (more, c)
        | (none, _) => .error .malformedDocument
      else .error .malformedDocument

/-- Reads blanks inside quotes, and the line breaks after them. -/
def scanQuotedGap (c : Cursor) : Except Fault (List Char × Cursor) := do
  let blanks := c.rest.takeWhile fun y => y = ' ' || y = '\t'
  let c := c.advance blanks.length
  match c.rest with
  | [] => .error .malformedDocument
  | x :: rest =>
    if isBreak x then
      match c.next.breaks (fun y => y = ' ' || y = '\t') (rest.length + 1) with
      | (some more, c) => return (foldBreaks x more, c)
      | (none, _) => .error .malformedDocument
    else return (blanks, c)

/-- Reads the characters up to the closing quote. A single quote is written twice inside single
quotes; the backslash escapes inside double quotes. -/
def quotedChars (double : Bool) : (fuel : Nat) → Cursor → (text : List Char) →
    Except Fault (List Char × Cursor)
  | 0, _, _ => .error .malformedDocument
  | fuel + 1, c, text => do
    match c.rest with
    | [] => .error .malformedDocument
    | x :: rest =>
      if !double && x = '\'' && rest.head? = some '\'' then
        quotedChars double fuel (c.advance 2) (text ++ ['\''])
      else if x = (if double then '"' else '\'') then return (text, c.next)
      else if double && x = '\\' then
        let (more, c) ← scanEscape c.next
        quotedChars double fuel c (text ++ more)
      else if endsWord (some x) then
        let (more, c) ← scanQuotedGap c
        quotedChars double fuel c (text ++ more)
      else quotedChars double fuel c.next (text ++ [x])

/-- Reads a scalar from its opening quote. -/
def scanQuoted (double : Bool) (c : Cursor) : Except Fault (String × Cursor) := do
  let (text, c) ← quotedChars double (c.rest.length + 1) c.next []
  return (String.ofList text, c)

end RobotSoccer.Document
