import RobotSoccer.Config
import RobotSoccer.Document.Reading
import RobotSoccer.Folder

/-! Profiles: configurations that come with the library, and files that hold one. -/
namespace RobotSoccer.Profile

variable {K : Type} [Scalar K]

/-- A robot enters at a touch line and looks across the pitch. -/
def touchLinePose (player : Int) (x : K) : SetupPose K := ⟨player, ⟨x, 3100.0⟩, ⟨x, 0.0⟩⟩

/-- Five players in space. -/
def standard : Config K :=
  { Config.default with
    setupPoses := [touchLinePose 1 (-4500.0), touchLinePose 2 (-3500.0), touchLinePose 3 (-2500.0),
      touchLinePose 4 (-1500.0), touchLinePose 5 (-500.0)] }

/-- One player on the plane, where friction stops the ball. -/
def planar : Config K :=
  { Config.default with
    variant := .planar
    ballFriction := .real 0.3
    setupPoses := [touchLinePose 1 (-4500.0)] }

/-- Where the built-in profiles are kept. -/
def shelfPlace : List String := ["library", "config", "profiles"]

def shelf : Folder (Config K) :=
  ⟨[(shelfPlace ++ ["default.yaml"], standard), (shelfPlace ++ ["planar.yaml"], planar)], []⟩

/-- The built-in profile of a name, which is read as a path among them. -/
def builtIn? (name : String) : Except Fault (Option (Config K)) := do
  match ← shelf.find? [] ("/" ++ "/".intercalate shelfPlace ++ "/" ++ name ++ ".yaml") with
  | some (.file config) => return some config
  | _ => return none

/-- Reads the text of a profile. An empty document stands for no settings. -/
def ofText (text : String) : Except Fault (Config K) := do
  let data ← Document.read text
  Config.ofValue (if ← data.truth then data else .record [])

def ofEntry : Entry String → Except Fault (Config K)
  | .file text => ofText text
  | .folder => .error .fileIsDirectory

/-- Loads the profile of a name from a folder: a built-in one first, else a file. A path from the
root is always that of a file. -/
def load (files : Folder String) (workplace : List String) (name : String) :
    Except Fault (Config K) := do
  if (Path.ofText name).absolute then ofEntry (← files.find workplace name)
  else
    match ← builtIn? name with
    | some config => return config
    | none =>
      match ← files.find? workplace name with
      | some entry => ofEntry entry
      | none => .error (.profileNotFound name)

end RobotSoccer.Profile
