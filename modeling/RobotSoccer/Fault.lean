/-! What can go wrong, by cause. The causes that a user can mend carry a message. -/
namespace RobotSoccer

/-- The kinds of plain values, as the messages name them. -/
inductive Kind where
  | null | bool | int | real | text | date | time | list | record
  deriving DecidableEq

namespace Kind

def name : Kind → String
  | null => "NoneType"
  | bool => "bool"
  | int => "int"
  | real => "float"
  | text => "str"
  | date => "datetime.date"
  | time => "datetime.datetime"
  | list => "list"
  | record => "dict"

end Kind

inductive Fault where
  /-- A body's name does not end in a number. -/
  | nameWithoutNumber (name : String)
  | missingGroup (group : String)
  | noSetupPose (player : String) (configured : Nat)
  | unknownVariant (given : String)
  | unsupportedVariant (given : String)
  | negativeFriction (given : String)
  | notCoordinates (dimension : Nat) (given : Kind)
  | coordinateCount (dimension given : Nat)
  | noSuchComponent (dimension : Nat)
  | ballTaken (name : String)
  | profileNotFound (name : String)
  | fileNotFound
  | fileIsDirectory
  /-- A path leads through a file. -/
  | notDirectory
  | nameTooLong
  /-- A profile's text is not a document. -/
  | malformedDocument
  /-- A setting is outside its range. -/
  | settingOutOfRange
  | missingBody
  /-- An operation does not apply to values of this kind. -/
  | wrongKind
  /-- A text or a number does not denote a number of the asked kind. -/
  | unreadable
  /-- A row does not have the asked number of items. -/
  | wrongCount
  | tooShort
  | missingKey
  /-- A value of this kind has no such member. -/
  | missingMember
  /-- A number is too large. -/
  | overflow
  | divisionByZero
  /-- The spread of a random number has a minus sign. -/
  | negativeSpread
  deriving DecidableEq

namespace Fault

/-- The message, for the causes that have one. -/
def message? : Fault → Option String
  | nameWithoutNumber name => s!"Cannot parse a robot number from body name '{name}'."
  | missingGroup group => s!"Scene has no object group '{group}'."
  | noSetupPose player configured =>
    s!"No setup pose configured for player {player} among {configured} poses."
  | unknownVariant given =>
    s!"Unknown engine variant '{given}', expected one of ['planar', 'volumetric']."
  | unsupportedVariant given => s!"Unsupported engine variant: {given}"
  | negativeFriction given => s!"Friction must be non-negative, got {given}."
  | notCoordinates dimension given =>
    s!"Invalid single argument type for Vector{dimension}D: <class '{given.name}'>"
  | coordinateCount dimension given =>
    s!"Vector{dimension}D requires {dimension} coordinates, got {given}"
  | noSuchComponent dimension => s!"Vector{dimension}D index out of range"
  | ballTaken name => s!"Ball is already set to '{name}', cannot replace it within a run."
  | profileNotFound name => s!"Profile '{name}' not found as a built-in name or file path."
  | _ => none

end Fault
end RobotSoccer
