/-!
# Dates, times and moments

Calendar values as documents write them. A moment is a date with a time of day and, optionally, its
distance from universal time in seconds. The checked constructors say which part of a value is out of
its range.
-/

namespace ModuleSystem

/-- A day of the proleptic Gregorian calendar. -/
structure Date where
  year : Nat
  month : Nat
  day : Nat
  deriving DecidableEq, Repr

/-- A time of day. -/
structure Time where
  hour : Nat
  minute : Nat
  second : Nat
  microsecond : Nat
  deriving DecidableEq, Repr

/-- A date and a time, with the distance from universal time in seconds if it is known. -/
structure Moment where
  date : Date
  time : Time
  offset : Option Int
  deriving DecidableEq, Repr

/-- The part of a calendar value that is out of range. -/
inductive CalendarError where
  | year (value : Nat)
  | month
  | day
  | hour
  | minute
  | second
  | offset (seconds : Int)
  deriving DecidableEq, Repr

namespace Date

/-- Whether a year has a 29th of February. -/
def isLeap (year : Nat) : Bool := year % 4 == 0 && (year % 100 != 0 || year % 400 == 0)

/-- The number of days of a month. -/
def daysIn (year month : Nat) : Nat :=
  if month = 2 then if isLeap year then 29 else 28
  else if month = 4 ∨ month = 6 ∨ month = 9 ∨ month = 11 then 30
  else 31

/-- A date whose parts are in range. -/
def check (year month day : Nat) : Except CalendarError Date :=
  if year < 1 ∨ 9999 < year then .error (.year year)
  else if month < 1 ∨ 12 < month then .error .month
  else if day < 1 ∨ daysIn year month < day then .error .day
  else .ok ⟨year, month, day⟩

end Date

namespace Time

/-- A time whose parts are in range. -/
def check (hour minute second microsecond : Nat) : Except CalendarError Time :=
  if 23 < hour then .error .hour
  else if 59 < minute then .error .minute
  else if 59 < second then .error .second
  else .ok ⟨hour, minute, second, microsecond⟩

end Time

/-- A number with leading zeros up to a width. -/
def padded (width n : Nat) : String :=
  let digits := Nat.toDigits 10 n
  String.ofList (List.replicate (width - digits.length) '0' ++ digits)

/-- The standard text of a date. -/
def Date.text (d : Date) : String :=
  padded 4 d.year ++ "-" ++ padded 2 d.month ++ "-" ++ padded 2 d.day

/-- The standard text of a time; a fraction is written if there is one. -/
def Time.text (t : Time) : String :=
  padded 2 t.hour ++ ":" ++ padded 2 t.minute ++ ":" ++ padded 2 t.second ++
    (if t.microsecond = 0 then "" else "." ++ padded 6 t.microsecond)

/-- The text of a distance from universal time. -/
def offsetText (seconds : Int) : String :=
  let n := seconds.natAbs
  (if seconds < 0 then "-" else "+") ++ padded 2 (n / 3600) ++ ":" ++ padded 2 (n / 60 % 60) ++
    (if n % 60 = 0 then "" else ":" ++ padded 2 (n % 60))

/-- The text of a moment, with a given mark between date and time. -/
def Moment.textWith (mark : String) (m : Moment) : String :=
  m.date.text ++ mark ++ m.time.text ++ (m.offset.map offsetText).getD ""

/-- The standard text of a moment. -/
def Moment.text (m : Moment) : String := m.textWith "T"

/-- The constructor form of a stretch of time in whole seconds: days may be negative, the seconds of
the day are not. -/
def durationRepr (seconds : Int) : String :=
  let days := seconds.fdiv 86400
  let rest := seconds.fmod 86400
  let parts := (if days = 0 then [] else ["days=" ++ toString days]) ++
    (if rest = 0 then [] else ["seconds=" ++ toString rest])
  "datetime.timedelta(" ++ (if parts.isEmpty then "0" else ", ".intercalate parts) ++ ")"

/-- The constructor form of a zone at a distance from universal time. -/
def zoneRepr (seconds : Int) : String :=
  if seconds = 0 then "datetime.timezone.utc"
  else "datetime.timezone(" ++ durationRepr seconds ++ ")"

/-- Removes a zero at the end of a list of parts. -/
def dropLastZero (parts : List Nat) : List Nat :=
  if parts.getLast? = some 0 then parts.dropLast else parts

/-- The constructor form of a date. -/
def Date.repr (d : Date) : String :=
  "datetime.date(" ++ ", ".intercalate ([d.year, d.month, d.day].map toString) ++ ")"

/-- The constructor form of a time: seconds and microseconds are left out from the end while zero. -/
def Time.repr (t : Time) : String :=
  let parts := [t.hour, t.minute] ++ dropLastZero (
    if t.microsecond = 0 then [t.second] else [t.second, t.microsecond])
  "datetime.time(" ++ ", ".intercalate (parts.map toString) ++ ")"

/-- The constructor form of a moment. -/
def Moment.repr (m : Moment) : String :=
  let parts := [m.date.year, m.date.month, m.date.day, m.time.hour, m.time.minute] ++ dropLastZero (
    if m.time.microsecond = 0 then [m.time.second] else [m.time.second, m.time.microsecond])
  "datetime.datetime(" ++ ", ".intercalate (parts.map toString ++
    (m.offset.map fun s => "tzinfo=" ++ zoneRepr s).toList) ++ ")"

/-- A zone less than a day from universal time. -/
def checkOffset (seconds : Int) : Except CalendarError Int :=
  if seconds.natAbs < 86400 then .ok seconds else .error (.offset seconds)

/-- What is wrong with a calendar value, in words. -/
def CalendarError.message : CalendarError → String
  | .year value => "year " ++ toString value ++ " is out of range"
  | .month => "month must be in 1..12"
  | .day => "day is out of range for month"
  | .hour => "hour must be in 0..23"
  | .minute => "minute must be in 0..59"
  | .second => "second must be in 0..59"
  | .offset seconds => "offset must be a timedelta strictly between -timedelta(hours=24) and " ++
      "timedelta(hours=24), not " ++ durationRepr seconds ++ "."

end ModuleSystem
