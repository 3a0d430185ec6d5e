import TableTypes.Value.Text
import TableTypes.Yaml.Fault

/-!
# Dates and moments in YAML

A date is written with dashes. A time of day may follow after a `T` or blanks, with a fraction of
a second and with the distance from universal time.
-/

namespace TableTypes.Yaml

/-- The distance from universal time as it is written. -/
inductive Zone where
  | universal
  | offset (negative : Bool) (hours minutes : Nat)
  deriving DecidableEq, Repr

/-- A time of day as it is written. -/
structure WrittenTime where
  hour : Nat
  minute : Nat
  second : Nat
  fraction : List Char
  zone : Option Zone
  deriving DecidableEq, Repr

/-- A date or a moment as it is written. -/
structure Timestamp where
  year : Nat
  month : Nat
  day : Nat
  /-- Month and day have two digits each. -/
  padded : Bool
  time : Option WrittenTime
  deriving DecidableEq, Repr

/-- Read from `least` up to `most` digits. -/
def readNumber? (least most : Nat) (s : List Char) : Option (Nat × List Char) :=
  let digits := (s.take most).takeWhile Char.isDigit
  if digits.length < least then none
  else some (digits.foldl (fun n c => 10 * n + (c.toNat - 48)) 0, s.drop digits.length)

/-- Read a character that has to be there. -/
def readChar? (c : Char) : List Char → Option (List Char)
  | d :: rest => if d = c then some rest else none
  | [] => none

/-- Drop spaces and tabs. -/
def dropBlanks (s : List Char) : List Char :=
  s.dropWhile fun c => c = ' ' || c = '\t'

/-- Read the distance from universal time up to the end of the text. -/
def readZone? (s : List Char) : Option (Option Zone) :=
  match dropBlanks s with
  | [] => if s.isEmpty then some none else none
  | ['Z'] => some (some .universal)
  | sign :: rest =>
    if sign = '+' ∨ sign = '-' then do
      let (hours, rest) ← readNumber? 1 2 rest
      if rest.isEmpty then return some (.offset (sign = '-') hours 0)
      let (minutes, rest) ← readNumber? 2 2 (← readChar? ':' rest)
      if rest.isEmpty then return some (.offset (sign = '-') hours minutes) else none
    else none

/-- Read a time of day up to the end of the text. -/
def readTime? (s : List Char) : Option WrittenTime := do
  let (hour, s) ← readNumber? 1 2 s
  let (minute, s) ← readNumber? 2 2 (← readChar? ':' s)
  let (second, s) ← readNumber? 2 2 (← readChar? ':' s)
  let (fraction, s) := match s with
    | '.' :: rest => (rest.takeWhile Char.isDigit, rest.dropWhile Char.isDigit)
    | s => ([], s)
  let zone ← readZone? s
  return ⟨hour, minute, second, fraction, zone⟩

/-- What follows the mark between a date and a time. -/
def afterDate? : List Char → Option (List Char)
  | c :: rest =>
    if c = 'T' ∨ c = 't' then some rest
    else if c = ' ' ∨ c = '\t' then some (dropBlanks rest)
    else none
  | [] => none

/-- Read a date or a moment; the whole text has to be one. -/
def Timestamp.read? (s : List Char) : Option Timestamp := do
  let (year, s) ← readNumber? 4 4 s
  let monthAndDay ← readChar? '-' s
  let (month, afterMonth) ← readNumber? 1 2 monthAndDay
  let dayAndTime ← readChar? '-' afterMonth
  let (day, rest) ← readNumber? 1 2 dayAndTime
  let padded := monthAndDay.length = afterMonth.length + 2 ∧ dayAndTime.length = rest.length + 2
  if rest.isEmpty then return ⟨year, month, day, padded, none⟩
  let time ← readTime? (← afterDate? rest)
  return ⟨year, month, day, padded, some time⟩

/-- A plain scalar is a timestamp. A date without a time has to be written in full. -/
def isTimestamp (s : List Char) : Bool :=
  match Timestamp.read? s with
  | some t => t.time.isSome || t.padded
  | none => false

/-- The number of days in a month. -/
def daysIn (year month : Nat) : Nat :=
  let leap := year % 4 = 0 ∧ (year % 100 ≠ 0 ∨ year % 400 = 0)
  if month = 2 then (if leap then 29 else 28)
  else if [4, 6, 9, 11].contains month then 30 else 31

/-- A day of the calendar. -/
def Timestamp.date (t : Timestamp) : Except Fault Date :=
  if t.year = 0 then .error (.outOfRange (.year t.year))
  else if t.month = 0 ∨ 12 < t.month then .error (.outOfRange .month)
  else if t.day = 0 ∨ daysIn t.year t.month < t.day then .error (.outOfRange .day)
  else .ok ⟨t.year, t.month, t.day⟩

/-- The distance from universal time in seconds; it has to be less than a day. -/
def Zone.seconds : Zone → Except Fault Int
  | universal => .ok 0
  | offset negative hours minutes =>
    let size : Int := 3600 * hours + 60 * minutes
    let seconds := if negative then -size else size
    if size < 86400 then .ok seconds
    else .error (.outOfRange (.offset (spanLiteral seconds)))

/-- Millionths of a second; further digits are dropped. -/
def microseconds (fraction : List Char) : Nat :=
  let digits := fraction.take 6
  (digits ++ List.replicate (6 - digits.length) '0').foldl
    (fun n c => 10 * n + (c.toNat - 48)) 0

/-- The date or the moment that is written. -/
def Timestamp.value (t : Timestamp) : Except Fault Value :=
  match t.time with
  | none => t.date.map .date
  | some time => do
    let offset ← match time.zone with
      | some zone => zone.seconds.map some
      | none => pure none
    let date ← t.date
    if 24 ≤ time.hour then throw (.outOfRange .hour)
    if 60 ≤ time.minute then throw (.outOfRange .minute)
    if 60 ≤ time.second then throw (.outOfRange .second)
    return .moment ⟨date, time.hour, time.minute, time.second, microseconds time.fraction, offset⟩

/-- The date or the moment that a scalar denotes. -/
def timestampOf (text : String) : Except Fault Value :=
  match Timestamp.read? text.toList with
  | some t => t.value
  | none => .error .noMoment

end TableTypes.Yaml
