import RobotSoccer.Document.Token

/-! The nodes of a document. Scalars keep whether they were plain, for only plain ones may denote
something else than a text. What is left out reads as an empty plain scalar. -/
namespace RobotSoccer.Document

inductive Node where
  | scalar (text : String) (plain : Bool)
  | sequence (items : List Node)
  | mapping (pairs : List (Node × Node))
  /-- A mapping that merges something else than mappings. -/
  | malformed

namespace Node

def absent : Node := .scalar "" true

/-- The tokens after one that has to come first. -/
def expect (token : Token) : List Token → Except Fault (List Token)
  | t :: rest => if t = token then .ok rest else .error .malformedDocument
  | [] => .error .malformedDocument

/-- Whether the first token is among some, or there is none. -/
def stopsAt (stops : List Token) : List Token → Bool
  | [] => true
  | t :: _ => stops.contains t

mutual

/-- Reads a node. Block collections are read only where a block may stand, and items without
indentation of their own only as the value of a key. -/
def read (block indentless : Bool) :
    (fuel : Nat) → List Token → Except Fault (Node × List Token)
  | 0, _ => .error .malformedDocument
  | fuel + 1, tokens => do
    match tokens with
    | .scalar text plain :: rest => return (.scalar text plain, rest)
    | .flowStart .sequence :: rest => do
      let (items, rest) ← flowItems true fuel rest
      return (.sequence items, rest)
    | .flowStart .mapping :: rest => do
      let (pairs, rest) ← flowPairs true fuel rest
      return (.mapping pairs, rest)
    | .blockStart .sequence :: rest =>
      if block then do
        let (items, rest) ← blockItems [.item, .blockEnd] fuel rest
        return (.sequence items, ← expect .blockEnd rest)
      else .error .malformedDocument
    | .blockStart .mapping :: rest =>
      if block then do
        let (pairs, rest) ← blockPairs fuel rest
        return (.mapping pairs, ← expect .blockEnd rest)
      else .error .malformedDocument
    | .item :: _ =>
      if indentless then do
        let (items, rest) ← blockItems [.item, .key, .value, .blockEnd] fuel tokens
        return (.sequence items, rest)
      else .error .malformedDocument
    | _ => .error .malformedDocument

/-- Reads a node, or nothing before one of some tokens. -/
def readUnless (stops : List Token) (block indentless : Bool) :
    (fuel : Nat) → List Token → Except Fault (Node × List Token)
  | 0, _ => .error .malformedDocument
  | fuel + 1, tokens =>
    if stopsAt stops tokens then .ok (absent, tokens) else read block indentless fuel tokens

/-- Reads items that start with dashes. -/
def blockItems (stops : List Token) :
    (fuel : Nat) → List Token → Except Fault (List Node × List Token)
  | 0, _ => .error .malformedDocument
  | fuel + 1, tokens => do
    match tokens with
    | .item :: rest =>
      let (node, rest) ← readUnless stops true false fuel rest
      let (nodes, rest) ← blockItems stops fuel rest
      return (node :: nodes, rest)
    | _ => return ([], tokens)

/-- Reads the pairs of a block mapping. A key or a value may be left out. -/
def blockPairs : (fuel : Nat) →
    List Token → Except Fault (List (Node × Node) × List Token)
  | 0, _ => .error .malformedDocument
  | fuel + 1, tokens => do
    let stops : List Token := [.key, .value, .blockEnd]
    match tokens with
    | .key :: rest =>
      let (key, rest) ← readUnless stops true true fuel rest
      let (value, rest) ← blockValue fuel rest
      let (pairs, rest) ← blockPairs fuel rest
      return ((key, value) :: pairs, rest)
    | _ => return ([], tokens)

/-- Reads the value of a key in a block mapping. -/
def blockValue : (fuel : Nat) → List Token → Except Fault (Node × List Token)
  | 0, _ => .error .malformedDocument
  | fuel + 1, tokens =>
    match tokens with
    | .value :: rest => readUnless [.key, .value, .blockEnd] true true fuel rest
    | _ => .ok (absent, tokens)

/-- Reads the value of a key in a flow collection. -/
def flowValue (kind : Bracket) : (fuel : Nat) → List Token → Except Fault (Node × List Token)
  | 0, _ => .error .malformedDocument
  | fuel + 1, tokens =>
    match tokens with
    | .value :: rest => readUnless [.comma, .flowEnd kind] false false fuel rest
    | _ => .ok (absent, tokens)

/-- Reads the items of a flow sequence and its end. A pair among them is a mapping of its own. -/
def flowItems (first : Bool) : (fuel : Nat) → List Token → Except Fault (List Node × List Token)
  | 0, _ => .error .malformedDocument
  | fuel + 1, tokens => do
    match tokens with
    | .flowEnd .sequence :: rest => return ([], rest)
    | _ =>
      let tokens ← if first then pure tokens else expect .comma tokens
      match tokens with
      | .flowEnd .sequence :: rest => return ([], rest)
      | .key :: rest =>
        let (key, rest) ← readUnless [.value, .comma, .flowEnd .sequence] false false fuel rest
        let (value, rest) ← flowValue .sequence fuel rest
        let (items, rest) ← flowItems false fuel rest
        return (.mapping [(key, value)] :: items, rest)
      | _ =>
        let (item, rest) ← read false false fuel tokens
        let (items, rest) ← flowItems false fuel rest
        return (item :: items, rest)

/-- Reads the pairs of a flow mapping and its end. -/
def flowPairs (first : Bool) : (fuel : Nat) →
    List Token → Except Fault (List (Node × Node) × List Token)
  | 0, _ => .error .malformedDocument
  | fuel + 1, tokens => do
    match tokens with
    | .flowEnd .mapping :: rest => return ([], rest)
    | _ =>
      let tokens ← if first then pure tokens else expect .comma tokens
      match tokens with
      | .flowEnd .mapping :: rest => return ([], rest)
      | .key :: rest =>
        let (key, rest) ← readUnless [.value, .comma, .flowEnd .mapping] false false fuel rest
        let (value, rest) ← flowValue .mapping fuel rest
        let (pairs, rest) ← flowPairs false fuel rest
        return ((key, value) :: pairs, rest)
      | _ =>
        let (key, rest) ← read false false fuel tokens
        let (pairs, rest) ← flowPairs false fuel rest
        return ((key, absent) :: pairs, rest)

end

/-- The one document of some tokens. It ends with the tokens, or before marks of its end. -/
def ofTokens (tokens : List Token) : Except Fault Node := do
  let fuel := 4 * tokens.length + 4
  let ended (node : Node) (rest : List Token) : Except Fault Node :=
    if rest.all (· = .documentEnd) then .ok node else .error .malformedDocument
  match tokens with
  | [] => return absent
  | .documentStart :: rest =>
    let (node, rest) ← readUnless [.documentStart, .documentEnd] true false fuel rest
    ended node rest
  | _ =>
    let (node, rest) ← read true false fuel tokens
    ended node rest

end Node
end RobotSoccer.Document
