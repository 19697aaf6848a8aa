import RobotSoccer.Value.Basic

/-! Days, and times on a day, as plain scalars write them: `2001-12-14`, or
`2001-12-14 21:59:43.10 -5:30`. -/
namespace RobotSoccer.Document

def isDecimal (c : Char) : Bool := '0' ≤ c && c ≤ '9'

/-- The number that digits of a base denote. -/
def valueInBase (base : Nat) (cs : List Char) : Nat :=
  let digit (c : Char) : Nat :=
    if isDecimal c then c.toNat - '0'.toNat else c.toLower.toNat - 'a'.toNat + 10
  cs.foldl (fun n c => base * n + digit c) 0

def daysInMonth (year month : Nat) : Nat :=
  if month = 2 then
    if year % 4 = 0 ∧ (year % 100 ≠ 0 ∨ year % 400 = 0) then 29 else 28
  else if [4, 6, 9, 11].contains month then 30
  else 31

structure Day where
  year : Nat
  month : Nat
  day : Nat

namespace Day

def exists? (d : Day) : Bool :=
  1 ≤ d.year && 1 ≤ d.month && d.month ≤ 12 && 1 ≤ d.day && d.day ≤ daysInMonth d.year d.month

end Day

structure TimeOfDay where
  hour : Nat
  minute : Nat
  second : Nat
  microsecond : Nat
  /-- The distance of the time zone, east of the meridian or not, in minutes. -/
  zone : Option (Bool × Nat)

namespace TimeOfDay

def exists? (t : TimeOfDay) : Bool :=
  t.hour < 24 && t.minute < 60 && t.second < 60 && t.zone.all fun zone => zone.2 < 24 * 60

end TimeOfDay

/-- A number with zeros in front up to a width. -/
def padded (width n : Nat) : String :=
  let digits := Nat.toDigits 10 n
  String.ofList (List.replicate (width - digits.length) '0' ++ digits)

namespace Day

def text (d : Day) : String :=
  padded 4 d.year ++ "-" ++ padded 2 d.month ++ "-" ++ padded 2 d.day

end Day

namespace TimeOfDay

def text (t : TimeOfDay) : String :=
  padded 2 t.hour ++ ":" ++ padded 2 t.minute ++ ":" ++ padded 2 t.second ++
    (if t.microsecond = 0 then "" else "." ++ padded 6 t.microsecond) ++
    t.zone.elim "" fun zone =>
      (if zone.1 || zone.2 = 0 then "+" else "-") ++
        padded 2 (zone.2 / 60) ++ ":" ++ padded 2 (zone.2 % 60)

end TimeOfDay

/-- Splits off a number of at least `least` and at most `most` digits. -/
def splitNumber? (least most : Nat) (cs : List Char) : Option (Nat × List Char) :=
  let digits := (cs.take most).takeWhile isDecimal
  if digits.length < least then none
  else some (valueInBase 10 digits, cs.drop digits.length)

/-- Passes over one character. -/
def dropMark? (mark : Char) : List Char → Option (List Char)
  | [] => none
  | c :: rest => if c = mark then some rest else none

def dropBlanks (cs : List Char) : List Char := cs.dropWhile fun c => c = ' ' || c = '\t'

/-- Reads a time zone at the end. -/
def readZone? (cs : List Char) : Option (Option (Bool × Nat)) := do
  if cs.isEmpty then return none
  match dropBlanks cs with
  | ['Z'] => return some (true, 0)
  | sign :: rest =>
    if sign ≠ '+' ∧ sign ≠ '-' then none
    else
      let (hours, rest) ← splitNumber? 1 2 rest
      if rest.isEmpty then return some (sign = '+', 60 * hours)
      else
        let (minutes, rest) ← splitNumber? 2 2 (← dropMark? ':' rest)
        if rest.isEmpty then return some (sign = '+', 60 * hours + minutes) else none
  | [] => none

/-- Reads what follows a day: `T` or blanks, and a time. Of a fraction six digits count. -/
def readTime? (cs : List Char) : Option TimeOfDay := do
  let rest ←
    match cs with
    | 'T' :: rest | 't' :: rest => some rest
    | ' ' :: rest | '\t' :: rest => some (dropBlanks rest)
    | _ => none
  let (hour, rest) ← splitNumber? 1 2 rest
  let (minute, rest) ← splitNumber? 2 2 (← dropMark? ':' rest)
  let (second, rest) ← splitNumber? 2 2 (← dropMark? ':' rest)
  let (fraction, rest) :=
    match rest with
    | '.' :: rest => rest.span isDecimal
    | rest => ([], rest)
  let microsecond := valueInBase 10 ((fraction ++ List.replicate 6 '0').take 6)
  return ⟨hour, minute, second, microsecond, ← readZone? rest⟩

/-- Reads a day or a time on a day. A day without a time has two digits for the month and the day.
What does not exist in the calendar is refused. -/
def readMoment? (cs : List Char) : Option (Except Fault Moment) := do
  let (year, rest) ← splitNumber? 4 4 cs
  let (month, rest) ← splitNumber? 1 2 (← dropMark? '-' rest)
  let (day, rest) ← splitNumber? 1 2 (← dropMark? '-' rest)
  let date : Day := ⟨year, month, day⟩
  if rest.isEmpty then
    if cs.length ≠ 10 then none
    else return if date.exists? then .ok ⟨date.text, false⟩ else .error .unreadable
  else
    let time ← readTime? rest
    return if date.exists? && time.exists? then .ok ⟨date.text ++ " " ++ time.text, true⟩
      else .error .unreadable

example : ((readMoment? "2001-12-14".toList).bind (·.toOption)).map Moment.text =
    some "2001-12-14" := by decide +kernel
example : ((readMoment? "2001-1-4t1:59:43.1 -5:30".toList).bind (·.toOption)).map Moment.text =
    some "2001-01-04 01:59:43.100000-05:30" := by decide +kernel
example : (readMoment? "2001-1-4".toList).isNone := by decide +kernel
example : ((readMoment? "2001-02-29".toList).bind (·.toOption)).isNone := by decide +kernel

end RobotSoccer.Document
