import RobotSoccer.Document.Scalar

/-! The tokens of a document. Block collections are made of indentation: their starts and ends are
tokens too, and a key without a mark is known by the colon after it. -/
namespace RobotSoccer.Document

inductive Bracket where
  | sequence | mapping
  deriving DecidableEq

inductive Token where
  | documentStart
  | documentEnd
  | blockStart (kind : Bracket)
  | blockEnd
  | flowStart (kind : Bracket)
  | flowEnd (kind : Bracket)
  /-- A dash before an item. -/
  | item
  /-- A comma between the items of a flow collection. -/
  | comma
  | key
  | value
  | scalar (text : String) (plain : Bool)
  deriving DecidableEq

/-- A place that turns out to be a key if a colon follows on its line. -/
structure KeyPlace where
  /-- The number of tokens before it. -/
  tokens : Nat
  /-- Whether nothing but a key can stand there. -/
  required : Bool
  index : Nat
  line : Nat
  column : Nat

/-- The longest distance of a colon from the start of its key. -/
def maxKeyLength : Nat := 1024

structure Scanner where
  cursor : Cursor
  tokens : Array Token
  /-- The column of the innermost block collection, `-1` outside all. -/
  indent : Int
  /-- The columns of the collections around it. -/
  outer : List Int
  /-- Whether a key without a mark may start here. -/
  keyAllowed : Bool
  /-- The possible key at the present level. -/
  place : Option KeyPlace
  /-- The possible keys at the levels around the innermost flow collection, one for each level. -/
  places : List (Option KeyPlace)

namespace Scanner

def start (text : List Char) : Scanner := ⟨.start text, #[], -1, [], true, none, []⟩

def inFlow (s : Scanner) : Bool := !s.places.isEmpty

def emit (s : Scanner) (token : Token) : Scanner := { s with tokens := s.tokens.push token }

/-- Emits a token that takes up some characters. -/
def take (s : Scanner) (token : Token) (length : Nat) : Scanner :=
  { s.emit token with cursor := s.cursor.advance length }

/-- Gives up the possible key at the present level. -/
def dropPlace (s : Scanner) : Except Fault Scanner :=
  if s.place.any (·.required) then .error .malformedDocument
  else .ok { s with place := none }

/-- Notes that a key may start here. -/
def notePlace (s : Scanner) : Except Fault Scanner := do
  if s.keyAllowed then
    let c := s.cursor
    let required := !s.inFlow && s.indent = c.column
    let place := ⟨s.tokens.size, required, c.index, c.line, c.column⟩
    return { ← s.dropPlace with place := some place }
  else return s

/-- A possible key is gone at the end of its line, or when it gets too long. -/
def fresh (c : Cursor) : Option KeyPlace → Except Fault (Option KeyPlace)
  | none => .ok none
  | some place =>
    if place.line = c.line && c.index - place.index ≤ maxKeyLength then .ok (some place)
    else if place.required then .error .malformedDocument
    else .ok none

def dropStale (s : Scanner) : Except Fault Scanner := do
  return { s with place := ← fresh s.cursor s.place, places := ← s.places.mapM (fresh s.cursor) }

/-- Closes the block collections that are indented by more than a column. -/
def closeBlocks (column : Int) (s : Scanner) : Scanner :=
  let rec close (indent : Int) : List Int → Scanner → Scanner
    | outer, s =>
      if column < indent then
        match outer with
        | [] => { s.emit .blockEnd with indent := -1, outer := [] }
        | next :: outer => close next outer (s.emit .blockEnd)
      else { s with indent, outer }
  if s.inFlow then s else close s.indent s.outer s

/-- Opens a block collection at a column that lies deeper than the innermost one, with its start
before the token at a place. -/
def openBlock (kind : Bracket) (column : Int) (place : Nat) (s : Scanner) : Scanner :=
  if s.indent < column then
    { s with
      indent := column
      outer := s.indent :: s.outer
      tokens := s.tokens.insertIdxIfInBounds place (.blockStart kind) }
  else s

/-- Reads the mark of an item or of a key. In a block it may open a collection. -/
def mark (token : Token) (kind : Bracket) (s : Scanner) : Except Fault Scanner := do
  if !s.inFlow && !s.keyAllowed then .error .malformedDocument
  else
    let opened := if s.inFlow then s else s.openBlock kind s.cursor.column s.tokens.size
    return (← opened.dropPlace).take token 1

/-- Reads a colon. If a key was possible it becomes one. -/
def colon (s : Scanner) : Except Fault Scanner := do
  match s.place with
  | some place =>
    let keyed := { s with
      place := none
      tokens := s.tokens.insertIdxIfInBounds place.tokens .key }
    let opened := if s.inFlow then keyed else keyed.openBlock .mapping place.column place.tokens
    return { opened.take .value 1 with keyAllowed := false }
  | none =>
    return { ← s.mark .value .mapping with keyAllowed := !s.inFlow }

/-- Reads a mark of the start or the end of a document. -/
def marker (token : Token) (s : Scanner) : Except Fault Scanner := do
  return { (← (s.closeBlocks (-1)).dropPlace).take token 3 with keyAllowed := false }

def openFlow (kind : Bracket) (s : Scanner) : Except Fault Scanner := do
  let s ← s.notePlace
  return { s.take (.flowStart kind) 1 with
    place := none, places := s.place :: s.places, keyAllowed := true }

def closeFlow (kind : Bracket) (s : Scanner) : Except Fault Scanner := do
  let s ← s.dropPlace
  match s.places with
  | [] => .error .malformedDocument
  | place :: places =>
    return { s.take (.flowEnd kind) 1 with place, places, keyAllowed := false }

def quotedScalar (double : Bool) (s : Scanner) : Except Fault Scanner := do
  let s ← s.notePlace
  let (text, cursor) ← scanQuoted double s.cursor
  return { s.emit (.scalar text false) with cursor, keyAllowed := false }

def plainScalar (s : Scanner) : Except Fault Scanner := do
  let s ← s.notePlace
  let (text, cursor, crossed) := scanPlain s.inFlow (s.indent + 1) s.cursor
  return { s.emit (.scalar text true) with cursor, keyAllowed := crossed }

/-- Reads the next token, which starts with `x`. -/
def token (x : Char) (s : Scanner) : Except Fault Scanner :=
  let c := s.cursor
  let wordEnds := endsWord (c.peek 1)
  if c.column = 0 && x = '%' then .error .malformedDocument
  else if c.column = 0 && c.atTriple '-' then s.marker .documentStart
  else if c.column = 0 && c.atTriple '.' then s.marker .documentEnd
  else if x = '[' then s.openFlow .sequence
  else if x = '\x7b' then s.openFlow .mapping
  else if x = ']' then s.closeFlow .sequence
  else if x = '\x7d' then s.closeFlow .mapping
  else if x = ',' then do
    return { (← s.dropPlace).take .comma 1 with keyAllowed := true }
  else if x = '-' && wordEnds then do
    return { ← s.mark .item .sequence with keyAllowed := true }
  else if x = '?' && (s.inFlow || wordEnds) then do
    return { ← s.mark .key .mapping with keyAllowed := !s.inFlow }
  else if x = ':' && (s.inFlow || wordEnds) then s.colon
  else if x = '\'' then s.quotedScalar false
  else if x = '"' then s.quotedScalar true
  else if startsPlain s.inFlow x (c.peek 1) then s.plainScalar
  else .error .malformedDocument

/-- Reads tokens to the end of the text. -/
def run : (fuel : Nat) → Scanner → Except Fault (List Token)
  | 0, _ => .error .malformedDocument
  | fuel + 1, s => do
    let (cursor, crossed) := s.cursor.skip (s.cursor.rest.length + 1) false
    let s := { s with cursor, keyAllowed := s.keyAllowed || (crossed && !s.inFlow) }
    let s := (← s.dropStale).closeBlocks cursor.column
    match cursor.rest with
    | [] => return (← (s.closeBlocks (-1)).dropPlace).tokens.toList
    | x :: _ => run fuel (← s.token x)

end Scanner

/-- The tokens of a text, which has to be printable. -/
def Token.scan (text : List Char) : Except Fault (List Token) :=
  if text.all isPrintable then (Scanner.start text).run (text.length + 1)
  else .error .malformedDocument

end RobotSoccer.Document
