import RobotSoccer.Fault

/-! Folders of files, and finding a file by a path with dots in it. -/
namespace RobotSoccer

/-- The most bytes in one name of a path. -/
def maxNameSize : Nat := 255

/-- The most bytes in a whole path. -/
def maxPathSize : Nat := 4095

/-- Files by the names on the way to them from the root. A folder exists where a file is inside, or
where it is listed. -/
structure Folder (α : Type) where
  files : List (List String × α)
  folders : List (List String)

inductive Entry (α : Type) where
  | folder
  | file (content : α)

/-- A path as it is written: from the root or not, with its names in order. -/
structure Path where
  absolute : Bool
  names : List String
  deriving DecidableEq

namespace Path

/-- Splits at slashes; empty names and single dots are dropped. -/
def ofText (text : String) : Path :=
  let names := text.splitOn "/"
  ⟨text.startsWith "/", names.filter fun name => name ≠ "" && name ≠ "."⟩

/-- The number of bytes in the shortest writing. -/
def size (p : Path) : Nat :=
  ("/".intercalate p.names).utf8ByteSize + if p.absolute then 1 else 0

/-- No path is written with a null character. -/
def isWritable (text : String) : Bool := !text.toList.contains '\x00'

end Path

namespace Folder

variable {α : Type}

/-- The file or folder at a place from the root. -/
def entry? (folder : Folder α) (place : List String) : Option (Entry α) :=
  match folder.files.lookup place with
  | some content => some (.file content)
  | none =>
    if (folder.files.map Prod.fst ++ folder.folders).any place.isPrefixOf then some .folder
    else none

/-- Walks from a place along names. Two dots lead to the folder around, which at the root is the
root. -/
def walk (folder : Folder α) : (place names : List String) → Except Fault (Entry α)
  | place, [] => (folder.entry? place).elim (.error .fileNotFound) .ok
  | place, name :: names =>
    match folder.entry? place with
    | none => .error .fileNotFound
    | some (.file _) => .error .notDirectory
    | some .folder =>
      if name = ".." then walk folder place.dropLast names
      else if maxNameSize < name.utf8ByteSize then .error .nameTooLong
      else walk folder (place ++ [name]) names

/-- The file or folder at a path, which starts at a place unless it starts at the root. -/
def find (folder : Folder α) (place : List String) (text : String) : Except Fault (Entry α) :=
  let path := Path.ofText text
  if !Path.isWritable text then .error .unreadable
  else if maxPathSize < path.size then .error .nameTooLong
  else folder.walk (if path.absolute then [] else place) path.names

/-- The file or folder at a path, if there is one. -/
def find? (folder : Folder α) (place : List String) (text : String) :
    Except Fault (Option (Entry α)) :=
  match folder.find place text with
  | .ok entry => .ok (some entry)
  | .error .nameTooLong => .error .nameTooLong
  | .error _ => .ok none

end Folder
end RobotSoccer
