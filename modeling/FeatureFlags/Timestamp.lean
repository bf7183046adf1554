/-!
# Timestamps

A timestamp is a date and a time of day to the microsecond, with the offset of its clock from UTC
in minutes when that is known. That the fields make a real date and time is part of the type.
-/

namespace FeatureFlags

/-- The number of days of a month. -/
def daysInMonth (year month : Nat) : Nat :=
  if month == 2 then
    if year % 4 == 0 && (year % 100 != 0 || year % 400 == 0) then 29 else 28
  else if month == 4 || month == 6 || month == 9 || month == 11 then 30
  else 31

/-- A date and time of day, perhaps with an offset from UTC in minutes. -/
structure Moment where
  year : Nat
  month : Nat
  day : Nat
  hour : Nat
  minute : Nat
  second : Nat
  micro : Nat
  offset : Option Int
deriving DecidableEq, Repr

/-- The fields make a date between the years 1 and 9999 and a time of day, and the offset is less
than a day. -/
def Moment.isReal (m : Moment) : Bool :=
  1 ≤ m.year && m.year ≤ 9999 && 1 ≤ m.month && m.month ≤ 12 && 1 ≤ m.day &&
    m.day ≤ daysInMonth m.year m.month && m.hour < 24 && m.minute < 60 && m.second < 60 &&
    m.micro < 1000000 &&
    match m.offset with
    | some o => o.natAbs < 1440
    | none => true

/-- A date and time that exists. -/
structure Timestamp where
  moment : Moment
  isReal : moment.isReal = true
deriving DecidableEq, Repr

namespace Timestamp

/-- The timestamp with the given fields, if they are real. -/
def ofMoment? (m : Moment) : Option Timestamp :=
  if h : m.isReal = true then some ⟨m, h⟩ else none

/-- The last second that timestamps reach. -/
def last : Timestamp := ⟨⟨9999, 12, 31, 23, 59, 59, 0, some 0⟩, by decide⟩

/-! ## Days -/

/-- Year, month and day of the date that lies `days` days after 1 March of the year 0. -/
def dateOfDays (days : Nat) : Nat × Nat × Nat :=
  let era := days / 146097
  let dayOfEra := days % 146097
  let yearOfEra := (dayOfEra - dayOfEra / 1460 + dayOfEra / 36524 - dayOfEra / 146096) / 365
  let dayOfYear := dayOfEra - (365 * yearOfEra + yearOfEra / 4 - yearOfEra / 100)
  let shifted := (5 * dayOfYear + 2) / 153
  let day := dayOfYear - (153 * shifted + 2) / 5 + 1
  let month := if shifted < 10 then shifted + 3 else shifted - 9
  (era * 400 + yearOfEra + (if month ≤ 2 then 1 else 0), month, day)

/-- Days from 1 March of the year 0 to 1 January 1970. -/
def epochDay : Nat := 719468

/-- The UTC moment that lies `seconds` seconds and `micro` microseconds after 1 January 1970. -/
def momentOfUnix (seconds : Int) (micro : Nat) : Moment :=
  let days := (Int.fdiv seconds 86400 + epochDay).toNat
  let rest := (Int.fmod seconds 86400).toNat
  let (year, month, day) := dateOfDays days
  { year, month, day
    hour := rest / 3600
    minute := rest / 60 % 60
    second := rest % 60
    micro
    offset := some 0 }

/-- The timestamp of a count of seconds since 1 January 1970 UTC. -/
def ofUnix? (seconds : Int) (micro : Nat) : Option Timestamp :=
  if seconds < -62135596800 then none else ofMoment? (momentOfUnix seconds micro)

/-! ## Text -/

/-- The decimal digits of a number, filled with zeros to a width. -/
def padded (width n : Nat) : List Char :=
  let digits := Nat.toDigits 10 n
  List.replicate (width - digits.length) '0' ++ digits

/-- An offset: `Z` for none, else a sign, hours and minutes. -/
def offsetText : Option Int → List Char
  | none => []
  | some o =>
    if o == 0 then ['Z']
    else
      (if o < 0 then '-' else '+') :: padded 2 (o.natAbs / 60) ++ ':' :: padded 2 (o.natAbs % 60)

/-- Date, the letter T, time, the fraction when there is one in six digits, and the offset. -/
def textOf (m : Moment) : List Char :=
  padded 4 m.year ++ '-' :: padded 2 m.month ++ '-' :: padded 2 m.day ++ 'T' ::
    padded 2 m.hour ++ ':' :: padded 2 m.minute ++ ':' :: padded 2 m.second ++
    (if m.micro == 0 then [] else '.' :: padded 6 m.micro) ++ offsetText m.offset

def toText (t : Timestamp) : String := String.ofList (textOf t.moment)

end Timestamp

end FeatureFlags
