/-! # Dates and moments

Days of the Gregorian calendar from year 1 to year 9999, and moments of such days, with or without
an offset from universal time.
-/

namespace JobScript.Calendar

structure Date where
  year : Nat
  month : Nat
  day : Nat
deriving DecidableEq, Repr

/-- `offset` counts the minutes ahead of universal time. -/
structure Moment where
  date : Date
  hour : Nat
  minute : Nat
  second : Nat
  microsecond : Nat
  offset : Option Int
deriving DecidableEq, Repr

inductive CalendarError
  | year (n : Nat)
  | month
  | day
  | hour
  | minute
  | second
  | offset (minutes : Int)
deriving DecidableEq, Repr

/-- A span of minutes, in days and the seconds left over. -/
def displaySpan (minutes : Int) : String :=
  let days := minutes.fdiv 1440
  let seconds := minutes.fmod 1440 * 60
  let parts := (if days = 0 then [] else [s!"days={days}"]) ++
    (if seconds = 0 then [] else [s!"seconds={seconds}"])
  "datetime.timedelta(" ++ (if parts.isEmpty then "0" else String.intercalate ", " parts) ++ ")"

def CalendarError.message : CalendarError → String
  | .year n => s!"year {n} is out of range"
  | .month => "month must be in 1..12"
  | .day => "day is out of range for month"
  | .hour => "hour must be in 0..23"
  | .minute => "minute must be in 0..59"
  | .second => "second must be in 0..59"
  | .offset minutes =>
    "offset must be a timedelta strictly between -timedelta(hours=24) and timedelta(hours=24), " ++
      s!"not {displaySpan minutes}."

def isLeap (year : Nat) : Bool := year % 4 == 0 && (year % 100 != 0 || year % 400 == 0)

def daysInMonth (year month : Nat) : Nat :=
  if month = 2 then (if isLeap year then 29 else 28)
  else if month ∈ [4, 6, 9, 11] then 30 else 31

def Date.check (d : Date) : Except CalendarError Date :=
  if d.year < 1 ∨ 9999 < d.year then .error (.year d.year)
  else if d.month < 1 ∨ 12 < d.month then .error .month
  else if d.day < 1 ∨ daysInMonth d.year d.month < d.day then .error .day
  else .ok d

/-- An offset lies less than a day from universal time; it is looked at first. -/
def Moment.check (m : Moment) : Except CalendarError Moment :=
  let far := m.offset.filter fun minutes => decide (1440 ≤ minutes.natAbs)
  match far, m.date.check with
  | some minutes, _ => .error (.offset minutes)
  | none, .error e => .error e
  | none, .ok _ =>
    if 23 < m.hour then .error .hour
    else if 59 < m.minute then .error .minute
    else if 59 < m.second then .error .second
    else .ok m

def padded (width n : Nat) : String :=
  let digits := Nat.toDigits 10 n
  String.ofList (List.replicate (width - digits.length) '0' ++ digits)

def Date.iso (d : Date) : String :=
  padded 4 d.year ++ "-" ++ padded 2 d.month ++ "-" ++ padded 2 d.day

def displayOffset (minutes : Int) : String :=
  (if minutes < 0 then "-" else "+") ++ padded 2 (minutes.natAbs / 60) ++ ":" ++
    padded 2 (minutes.natAbs % 60)

/-- Microseconds are written only if there are any. -/
def Moment.isoWith (separator : String) (m : Moment) : String :=
  m.date.iso ++ separator ++ padded 2 m.hour ++ ":" ++ padded 2 m.minute ++ ":" ++
    padded 2 m.second ++ (if m.microsecond = 0 then "" else "." ++ padded 6 m.microsecond) ++
    (m.offset.map displayOffset).getD ""

def Moment.iso (m : Moment) : String := m.isoWith "T"

def Date.display (d : Date) : String := s!"datetime.date({d.year}, {d.month}, {d.day})"

def displayZone (minutes : Int) : String :=
  if minutes = 0 then "datetime.timezone.utc" else s!"datetime.timezone({displaySpan minutes})"

def Moment.display (m : Moment) : String :=
  let fine := if m.microsecond ≠ 0 then [m.second, m.microsecond]
    else if m.second ≠ 0 then [m.second] else []
  let fields := [m.date.year, m.date.month, m.date.day, m.hour, m.minute] ++ fine
  let zone := m.offset.toList.map fun minutes => "tzinfo=" ++ displayZone minutes
  "datetime.datetime(" ++ String.intercalate ", " (fields.map toString ++ zone) ++ ")"

/-- Days of a year before a month. -/
def daysBefore (year : Nat) : Nat → Nat
  | 0 => 0
  | month + 1 => if month = 0 then 0 else daysBefore year month + daysInMonth year month

/-- Days from the start of year 1. -/
def Date.ordinal (d : Date) : Nat :=
  let past := d.year - 1
  past * 365 + past / 4 - past / 100 + past / 400 + daysBefore d.year d.month + d.day

/-- Microseconds from the start of year 1 on the moment's own clock. -/
def Moment.clock (m : Moment) : Nat :=
  (((m.date.ordinal * 24 + m.hour) * 60 + m.minute) * 60 + m.second) * 1000000 + m.microsecond

/-- Two moments with an offset are the same if they name one instant; a moment without one is the
same only as its like. -/
def Moment.same (m m' : Moment) : Bool :=
  match m.offset, m'.offset with
  | none, none => m.clock == m'.clock
  | some o, some o' => (m.clock : Int) - o * 60000000 == (m'.clock : Int) - o' * 60000000
  | _, _ => false

end JobScript.Calendar
