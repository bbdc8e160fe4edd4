import Tunebook.Fault

/-!
# Dates and moments

Days and times of day of the Gregorian calendar, continued backward, with an optional offset from universal
time in minutes, and their text `2001-12-14T21:59:43.100000-05:00`.

* `Date.make`, `Moment.make` accept the fields of an existing day and time only.
* `Moment.ofMicroseconds` is the moment a number of microseconds after the start of 1970, universal time.
* `Date.ofDays_start`: day zero is the first of January 1970.
-/

namespace Tunebook

/-- A day of the calendar. -/
structure Date where
  year : Nat
  month : Nat
  day : Nat
  deriving DecidableEq, Repr, Inhabited

/-- A day with a time of day and, where it is known, the offset from universal time in minutes. -/
structure Moment where
  date : Date
  hour : Nat
  minute : Nat
  second : Nat
  microsecond : Nat
  offset : Option Int
  deriving DecidableEq, Repr, Inhabited

def padded (width n : Nat) : List Char :=
  let digits := Nat.toDigits 10 n
  List.replicate (width - digits.length) '0' ++ digits

def isLeapYear (year : Nat) : Bool := year % 4 == 0 && (year % 100 != 0 || year % 400 == 0)

def daysInMonth (year month : Nat) : Nat :=
  if month = 2 then (if isLeapYear year then 29 else 28)
  else if month = 4 ∨ month = 6 ∨ month = 9 ∨ month = 11 then 30 else 31

namespace Date

/-- The day with these fields, if the calendar has it. -/
def make (year month day : Nat) : Except Fault Date :=
  if year < 1 ∨ 9999 < year then .error (.yearOutOfRange year)
  else if month < 1 ∨ 12 < month then .error .monthOutOfRange
  else if day < 1 ∨ daysInMonth year month < day then .error .dayOutOfRange
  else .ok ⟨year, month, day⟩

def text (d : Date) : String :=
  String.ofList (padded 4 d.year ++ '-' :: padded 2 d.month ++ '-' :: padded 2 d.day)

/-- The number of the day `d` when the first of January 1970 is day zero: the days of the four-century cycles,
of the years counted from March, and of the months since March. -/
def toDays (d : Date) : Int :=
  let y : Int := if d.month ≤ 2 then (d.year : Int) - 1 else d.year
  let cycle := y.fdiv 400
  let yearOfCycle := y - cycle * 400
  let monthFromMarch : Int := ((d.month : Int) + 9).fmod 12
  let dayOfYear := (153 * monthFromMarch + 2).fdiv 5 + d.day - 1
  let dayOfCycle := yearOfCycle * 365 + yearOfCycle.fdiv 4 - yearOfCycle.fdiv 100 + dayOfYear
  cycle * 146097 + dayOfCycle - 719468

def ofDays (days : Int) : Date :=
  let shifted := days + 719468
  let cycle := shifted.fdiv 146097
  let dayOfCycle := shifted - cycle * 146097
  let yearOfCycle :=
    (dayOfCycle - dayOfCycle.fdiv 1460 + dayOfCycle.fdiv 36524 - dayOfCycle.fdiv 146096).fdiv 365
  let dayOfYear := dayOfCycle - (365 * yearOfCycle + yearOfCycle.fdiv 4 - yearOfCycle.fdiv 100)
  let monthFromMarch := (5 * dayOfYear + 2).fdiv 153
  let day := dayOfYear - (153 * monthFromMarch + 2).fdiv 5 + 1
  let month := if monthFromMarch < 10 then monthFromMarch + 3 else monthFromMarch - 9
  let year := yearOfCycle + cycle * 400 + (if month ≤ 2 then 1 else 0)
  ⟨year.toNat, month.toNat, day.toNat⟩

/-- Day zero is the first of January 1970. -/
theorem ofDays_start : ofDays 0 = ⟨1970, 1, 1⟩ := by decide

end Date

def spanText (minutes : Int) : String :=
  let days := minutes.fdiv 1440
  let seconds := (minutes - days * 1440) * 60
  let parts := (if days = 0 then [] else ["days=" ++ toString days])
    ++ (if seconds = 0 then [] else ["seconds=" ++ toString seconds])
  "datetime.timedelta(" ++ (if parts.isEmpty then "0" else String.intercalate ", " parts) ++ ")"

namespace Moment

/-- The moment with these fields, if they are in range. -/
def make (date : Date) (hour minute second microsecond : Nat) (offset : Option Int) :
    Except Fault Moment :=
  if 23 < hour then .error .hourOutOfRange
  else if 59 < minute then .error .minuteOutOfRange
  else if 59 < second then .error .secondOutOfRange
  else .ok ⟨date, hour, minute, second, microsecond, offset⟩

def offsetText (minutes : Int) : List Char :=
  (if minutes < 0 then '-' else '+')
    :: (padded 2 (minutes.natAbs / 60) ++ ':' :: padded 2 (minutes.natAbs % 60))

/-- The text of a moment; the microseconds are written only where there are some. -/
def text (m : Moment) : String :=
  let clock := padded 2 m.hour ++ ':' :: padded 2 m.minute ++ ':' :: padded 2 m.second
  let fraction := if m.microsecond = 0 then [] else '.' :: padded 6 m.microsecond
  let offset := match m.offset with
    | some minutes => offsetText minutes
    | none => []
  m.date.text ++ "T" ++ String.ofList (clock ++ fraction ++ offset)

/-- Microseconds since the start of 1970; where the offset is unknown, as if there were none. -/
def toMicroseconds (m : Moment) : Int :=
  let minutes := m.date.toDays * 1440 + m.hour * 60 + m.minute - m.offset.getD 0
  (minutes * 60 + m.second) * 1000000 + m.microsecond

/-- The moment a number of microseconds after the start of 1970, in universal time. -/
def ofMicroseconds (n : Int) : Moment :=
  let day : Int := 86400000000
  let days := n.fdiv day
  let rest := (n - days * day).toNat
  let seconds := rest / 1000000
  ⟨Date.ofDays days, seconds / 3600, seconds / 60 % 60, seconds % 60, rest % 1000000, some 0⟩

end Moment

end Tunebook
