/-!
# TableTalk.Calendar

Points in time by the proleptic Gregorian calendar, their texts, what can be wrong with them, and
the reckoning of days from the start of the Unix era.
-/

namespace TableTalk

/-- A point in time: a date, and a time of day to the microsecond. -/
structure Timestamp where
  year : Int
  month : Nat
  day : Nat
  hour : Nat := 0
  minute : Nat := 0
  second : Nat := 0
  microsecond : Nat := 0
  deriving DecidableEq, Repr

namespace Timestamp

/-- A natural number in decimal digits, with zeros before it up to a width. -/
def padded (width n : Nat) : List Char :=
  let digits := Nat.toDigits 10 n
  List.replicate (width - digits.length) '0' ++ digits

def yearText (year : Int) : List Char :=
  if year < 0 then '-' :: padded 4 year.natAbs else padded 4 year.natAbs

def dateText (t : Timestamp) : List Char :=
  yearText t.year ++ '-' :: padded 2 t.month ++ '-' :: padded 2 t.day

def minuteText (t : Timestamp) : List Char :=
  padded 2 t.hour ++ ':' :: padded 2 t.minute

/-- The date and the time with a character between, the microseconds only if there are any. -/
def isoTextWith (between : Char) (t : Timestamp) : List Char :=
  t.dateText ++ between :: t.minuteText ++ ':' :: padded 2 t.second ++
    (if t.microsecond = 0 then [] else '.' :: padded 6 t.microsecond)

def isoText (t : Timestamp) : String :=
  .ofList (t.isoTextWith 'T')

def spacedText (t : Timestamp) : String :=
  .ofList (t.dateText ++ ' ' :: t.minuteText ++ ':' :: padded 2 t.second)

def spacedMinuteText (t : Timestamp) : String :=
  .ofList (t.dateText ++ ' ' :: t.minuteText)

def offsetText (minutes : Int) : List Char :=
  let n := minutes.natAbs
  (if minutes < 0 then '-' else '+') :: padded 2 (n / 60) ++ ':' :: padded 2 (n % 60)

/-! ### What can be wrong -/

def isLeap (year : Int) : Bool :=
  year.fmod 4 = 0 && (year.fmod 100 ≠ 0 || year.fmod 400 = 0)

def daysIn (year : Int) (month : Nat) : Nat :=
  if month = 2 then if isLeap year then 29 else 28
  else if month = 4 || month = 6 || month = 9 || month = 11 then 30
  else 31

inductive Fault where
  | year (year : Int)
  | month
  | day
  | hour
  | minute
  | second
  -- An offset from universal time of a day or more.
  | offset (minutes : Int)
  deriving DecidableEq, Repr

def dateFault? (t : Timestamp) : Option Fault :=
  if t.year < 1 || 9999 < t.year then some (.year t.year)
  else if t.month < 1 || 12 < t.month then some .month
  else if t.day < 1 || daysIn t.year t.month < t.day then some .day
  else none

def timeFault? (t : Timestamp) : Option Fault :=
  if 23 < t.hour then some .hour
  else if 59 < t.minute then some .minute
  else if 59 < t.second then some .second
  else none

def offsetFault? (minutes : Int) : Option Fault :=
  if minutes.natAbs < 24 * 60 then none else some (.offset minutes)

/-- A span of minutes in whole days, and seconds that are not negative. -/
def spanText (minutes : Int) : List Char :=
  let days := minutes.fdiv 1440
  let seconds := (minutes.fmod 1440).toNat * 60
  let dayPart :=
    "days=".toList ++ (if days < 0 then ['-'] else []) ++ Nat.toDigits 10 days.natAbs
  let secondPart := "seconds=".toList ++ Nat.toDigits 10 seconds
  "datetime.timedelta(".toList ++
    (if minutes = 0 then ['0']
     else if days = 0 then secondPart
     else if seconds = 0 then dayPart
     else dayPart ++ ", ".toList ++ secondPart) ++ [')']

def Fault.message : Fault → String
  | year y =>
    .ofList ("year ".toList ++ (if y < 0 then ['-'] else []) ++ Nat.toDigits 10 y.natAbs ++
      " is out of range".toList)
  | month => "month must be in 1..12"
  | day => "day is out of range for month"
  | hour => "hour must be in 0..23"
  | minute => "minute must be in 0..59"
  | second => "second must be in 0..59"
  | offset minutes =>
    .ofList ("offset must be a timedelta strictly between -timedelta(hours=24) and ".toList ++
      "timedelta(hours=24), not ".toList ++ spanText minutes ++ ['.'])

/-! ### Reckoning -/

/-- The date `days` days after the start of the Unix era. Years are counted from March, so that the
leap day is the last day of one; four hundred years have 146097 days. -/
def ofUnixDays (days : Int) : Timestamp :=
  let shifted := days + 719468
  let era := shifted.fdiv 146097
  let dayOfEra := (shifted.fmod 146097).toNat
  let yearOfEra :=
    (dayOfEra - dayOfEra / 1460 + dayOfEra / 36524 - dayOfEra / 146096) / 365
  let dayOfYear := dayOfEra - (365 * yearOfEra + yearOfEra / 4 - yearOfEra / 100)
  let marchMonth := (5 * dayOfYear + 2) / 153
  let day := dayOfYear - (153 * marchMonth + 2) / 5 + 1
  let month := if marchMonth < 10 then marchMonth + 3 else marchMonth - 9
  let year := (yearOfEra : Int) + era * 400 + (if month ≤ 2 then 1 else 0)
  { year, month, day }

def unixDays (t : Timestamp) : Int :=
  let year := if t.month ≤ 2 then t.year - 1 else t.year
  let era := year.fdiv 400
  let yearOfEra := year.fmod 400
  let dayOfYear : Int := (153 * ((t.month + 9) % 12) + 2) / 5 + t.day - 1
  era * 146097 + (yearOfEra * 365 + yearOfEra.fdiv 4 - yearOfEra.fdiv 100 + dayOfYear) - 719468

/-- The microseconds from the start of the Unix era to a point in time, told by clocks that are so
many minutes before universal time. -/
def unixMicroseconds (t : Timestamp) (minutes : Int) : Int :=
  let ofDay : Int := (t.hour * 60 + t.minute : Nat)
  (((t.unixDays * 1440 + ofDay - minutes) * 60) + t.second) * 1000000 + t.microsecond

/-- The point in time `seconds` seconds after the start of the Unix era. -/
def ofUnixSeconds (seconds : Int) : Timestamp :=
  let ofDay := (seconds.fmod 86400).toNat
  { ofUnixDays (seconds.fdiv 86400) with
    hour := ofDay / 3600
    minute := ofDay / 60 % 60
    second := ofDay % 60 }

end Timestamp

end TableTalk
