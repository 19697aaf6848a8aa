import RobotSoccer.Document.Node
import RobotSoccer.Document.Plain

/-! The value that a document denotes. The key `<<` merges mappings into the one that has it. Faults
are found level by level: those of the scalars in a collection before those of the collections in
it. -/
namespace RobotSoccer.Document

variable {K : Type} [Scalar K]

namespace Node

/-- The pairs that the value of a merging key adds. Of several mappings the first ones count
more. -/
def mergedPairs? : Node → Option (List (Node × Node))
  | .mapping pairs => some pairs
  | .sequence items => do
    let pairs ← items.mapM fun
      | .mapping pairs => some pairs
      | _ => none
    return pairs.reverse.flatten
  | _ => none

/-- Whether a key merges. -/
def isMerge : Node → Bool
  | .scalar text plain => plain && text = "<<"
  | _ => false

/-- A plain equality sign is a text if it is a key. -/
def asKey : Node → Node
  | .scalar "=" _ => .scalar "=" false
  | key => key

/-- A mapping with its merges carried out. The pairs of its own come last, for they count most. -/
def mergePairs (pairs : List (Node × Node)) : Node :=
  let (merges, own) := pairs.partition fun pair => pair.1.isMerge
  match merges.mapM fun pair => pair.2.mergedPairs? with
  | some merged => .mapping (merged.flatten ++ own.map fun pair => (pair.1.asKey, pair.2))
  | none => .malformed

mutual

/-- The node with all merges in it carried out. -/
def merge : Node → Node
  | .sequence items => .sequence (mergeItems items)
  | .mapping pairs => mergePairs (mergeInPairs pairs)
  | node => node

def mergeItems : List Node → List Node
  | [] => []
  | node :: nodes => merge node :: mergeItems nodes

def mergeInPairs : List (Node × Node) → List (Node × Node)
  | [] => []
  | (key, value) :: pairs => (merge key, merge value) :: mergeInPairs pairs

end

end Node

/-- Sets a field of a record. The last of equal keys gives the value, the first one the place. -/
def setField (fields : List (Value K × Value K)) (key value : Value K) :
    List (Value K × Value K) :=
  if fields.any fun f => f.1.samePlain key then
    fields.map fun f => if f.1.samePlain key then (f.1, value) else f
  else fields ++ [(key, value)]

namespace Node

mutual

def toValue : Node → Except Fault (Value K)
  | .scalar text plain => if plain then plainValue text else .ok (.text text)
  | .sequence items => do return .list (← itemValues items)
  | .mapping pairs => do return .record (← pairFields [] pairs)
  | .malformed => .error .malformedDocument

def itemValues : List Node → Except Fault (List (Value K))
  | [] => .ok []
  | node :: nodes => do return (← node.toValue) :: (← itemValues nodes)

def pairFields (fields : List (Value K × Value K)) :
    List (Node × Node) → Except Fault (List (Value K × Value K))
  | [] => .ok fields
  | (key, value) :: pairs => do
    let key ← key.toValue
    if key.canBeKey then pairFields (setField fields key (← value.toValue)) pairs
    else .error .malformedDocument

end

/-- A key has to have a value that can be looked up. -/
def checkKey (key : Node) : Except Fault Unit := do
  let value : Value K ← key.toValue
  if value.canBeKey then return () else .error .malformedDocument

/-- The scalar that a node is has to have a value. -/
def checkScalar : Node → Except Fault Unit
  | .scalar text plain => do let _ : Value K ← toValue (.scalar text plain)
  | _ => .ok ()

mutual

/-- The number of levels of collections. -/
def depth : Node → Nat
  | .sequence items => itemsDepth items + 1
  | .mapping pairs => pairsDepth pairs + 1
  | .malformed => 1
  | .scalar _ _ => 0

def itemsDepth : List Node → Nat
  | [] => 0
  | node :: nodes => max (depth node) (itemsDepth nodes)

def pairsDepth : List (Node × Node) → Nat
  | [] => 0
  | (_, value) :: pairs => max (depth value) (pairsDepth pairs)

end

mutual

/-- Checks the scalars and keys in the collections that lie under `level` others. -/
def checkLevel (level : Nat) : Node → Except Fault Unit
  | .sequence items => checkItems level items
  | .mapping pairs => checkPairs level pairs
  | .malformed => if level = 0 then .error .malformedDocument else .ok ()
  | .scalar _ _ => .ok ()

def checkItems (level : Nat) : List Node → Except Fault Unit
  | [] => .ok ()
  | node :: nodes => do
    match level with
    | 0 => node.checkScalar (K := K)
    | inner + 1 => checkLevel inner node
    checkItems level nodes

def checkPairs (level : Nat) : List (Node × Node) → Except Fault Unit
  | [] => .ok ()
  | (key, value) :: pairs => do
    match level with
    | 0 =>
      key.checkKey (K := K)
      value.checkScalar (K := K)
    | inner + 1 => checkLevel inner value
    checkPairs level pairs

end

end Node

/-- Reads a text of one document. -/
def read (text : String) : Except Fault (Value K) := do
  let node := (← Node.ofTokens (← Token.scan (unifyLines text.toList))).merge
  (List.range node.depth).forM (node.checkLevel (K := K))
  node.toValue

end RobotSoccer.Document
