import QueryAudit.Text.Numeral

/-!
# Dates and times

Days of the calendar, with or without a time of day, and whether there is such a day and such a
time. A time with a time zone is a point on the time line; two of them are the same when they are
the same point, whatever their zones.
-/

namespace QueryAudit

/-- A day. -/
structure Date where
  /-- The year. -/
  year : Nat
  /-- The month. -/
  month : Nat
  /-- The day of the month. -/
  day : Nat
  deriving DecidableEq

/-- A day and a time of day. -/
structure DateTime where
  /-- The day. -/
  date : Date
  /-- The hour. -/
  hour : Nat
  /-- The minute. -/
  minute : Nat
  /-- The second. -/
  second : Nat
  /-- The millionths of a second. -/
  micros : Nat
  /-- How many minutes the clocks are ahead of Greenwich, when that is known. -/
  zone : Option Int
  deriving DecidableEq

/-- Why there is no such day or time. -/
inductive CalendarFault where
  /-- Years are counted from one. -/
  | year
  /-- There are twelve months. -/
  | month
  /-- The month has no such day. -/
  | day
  /-- The hour is out of range. -/
  | hour
  /-- The minute is out of range. -/
  | minute
  /-- The second is out of range. -/
  | second
  /-- The time zone is a day or more away. -/
  | zone (minutes : Int)
  deriving DecidableEq

/-- The minutes of a day. -/
def minutesPerDay : Nat := 1440

/-- A difference in minutes as it is shown: days, rounded down, and the seconds beyond them. -/
def displayDifference (minutes : Int) : String :=
  let days := minutes.fdiv minutesPerDay
  let seconds := minutes.fmod minutesPerDay * 60
  let parts :=
    (if days = 0 then [] else ["days=" ++ Text.integerText days]) ++
      (if seconds = 0 then [] else ["seconds=" ++ Text.integerText seconds])
  "datetime.timedelta(" ++ (if parts.isEmpty then "0" else ", ".intercalate parts) ++ ")"

/-- The wording of a fault. -/
def CalendarFault.message : CalendarFault → String
  | .year => "year 0 is out of range"
  | .month => "month must be in 1..12"
  | .day => "day is out of range for month"
  | .hour => "hour must be in 0..23"
  | .minute => "minute must be in 0..59"
  | .second => "second must be in 0..59"
  | .zone minutes =>
    "offset must be a timedelta strictly between -timedelta(hours=24) and " ++
      "timedelta(hours=24), not " ++ displayDifference minutes ++ "."

/-- Whether a year has a leap day. -/
def isLeap (year : Nat) : Bool :=
  year % 4 == 0 && (year % 100 != 0 || year % 400 == 0)

/-- The days of a month. -/
def daysIn (year month : Nat) : Nat :=
  if month = 2 then if isLeap year then 29 else 28
  else if month = 4 ∨ month = 6 ∨ month = 9 ∨ month = 11 then 30
  else 31

namespace Date

/-- Why there is no such day. -/
def fault? (date : Date) : Option CalendarFault :=
  if date.year = 0 then some .year
  else if date.month = 0 ∨ 12 < date.month then some .month
  else if date.day = 0 ∨ daysIn date.year date.month < date.day then some .day
  else none

/-- The number of days before a day, counted from the first day of year one. -/
def ordinal (date : Date) : Nat :=
  let years := date.year - 1
  let months := (List.range (date.month - 1)).map fun month => daysIn date.year (month + 1)
  years * 365 + years / 4 - years / 100 + years / 400 + months.foldl (· + ·) 0 + (date.day - 1)

/-- The numbers of a day, with commas. -/
def numbers (date : Date) : String :=
  ", ".intercalate ([date.year, date.month, date.day].map toString)

/-- A day as it is shown. -/
def display (date : Date) : String :=
  "datetime.date(" ++ date.numbers ++ ")"

end Date

namespace DateTime

/-- Why there is no such time: its zone, its day or its time of day. -/
def fault? (time : DateTime) : Option CalendarFault :=
  let zone := time.zone.bind fun minutes =>
    if minutes.natAbs < minutesPerDay then none else some (.zone minutes)
  (zone.or time.date.fault?).or
    (if 23 < time.hour then some .hour
    else if 59 < time.minute then some .minute
    else if 59 < time.second then some .second
    else none)

/-- The point on the time line, in millionths of a second, if the zone is known. -/
def instant? (time : DateTime) : Option Int :=
  time.zone.map fun zone =>
    let minutes : Int := (time.date.ordinal * 24 + time.hour) * 60 + time.minute
    ((minutes - zone) * 60 + time.second) * 1000000 + time.micros

/-- A time zone as it is shown. -/
def displayZone (minutes : Int) : String :=
  if minutes = 0 then "datetime.timezone.utc"
  else "datetime.timezone(" ++ displayDifference minutes ++ ")"

/-- A time as it is shown. Seconds and their fractions are left out when they are zero. -/
def display (time : DateTime) : String :=
  let fine :=
    if time.micros ≠ 0 then [time.second, time.micros]
    else if time.second ≠ 0 then [time.second]
    else []
  let clock := ([time.hour, time.minute] ++ fine).map toString
  let zone := time.zone.toList.map fun minutes => "tzinfo=" ++ displayZone minutes
  "datetime.datetime(" ++ ", ".intercalate (time.date.numbers :: clock ++ zone) ++ ")"

end DateTime

end QueryAudit
