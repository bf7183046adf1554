import FeatureFlags.Json.Reader
import FeatureFlags.Text.Blank
import FeatureFlags.Timestamp

/-!
# Reading timestamps

A timestamp is written as a date, a separator and a time of day with an optional offset; a date
alone is its midnight, without an offset. A number is a count of seconds since 1 January 1970 UTC,
or of milliseconds when it is beyond 2 · 10^10; so is a text that holds a number.

When a text is none of these, the reason given is what is wrong with it as a date.
-/

namespace FeatureFlags.Timestamp

/-- Why no timestamp could be read. -/
inductive Reason where
  | tooShort
  | extraCharacters
  | yearCharacter
  | monthCharacter
  | dayCharacter
  | dateSeparator
  | yearRange
  | monthRange
  | dayRange
  | tooSmall
  | tooLarge
  | notANumber
deriving DecidableEq, Repr

def Reason.message : Reason → String
  | .tooShort => "input is too short"
  | .extraCharacters => "unexpected extra characters at the end of the input"
  | .yearCharacter => "invalid character in year"
  | .monthCharacter => "invalid character in month"
  | .dayCharacter => "invalid character in day"
  | .dateSeparator => "invalid date separator, expected `-`"
  | .yearRange => "year 0 is out of range"
  | .monthRange => "month value is outside expected range of 1-12"
  | .dayRange => "day value is outside expected range"
  | .tooSmall => "dates before 1600 are not supported as unix timestamps"
  | .tooLarge => "dates after 9999 are not supported as unix timestamps"
  | .notANumber => "NaN values not permitted"

/-- The value of a decimal digit. -/
def digit? (c : Char) : Option Nat :=
  if Json.isDigit c then some (c.toNat - '0'.toNat) else none

/-- The number that two digits denote. -/
def twoDigits? : List Char → Option (Nat × List Char)
  | a :: b :: rest => do some ((← digit? a) * 10 + (← digit? b), rest)
  | _ => none

/-! ## Date -/

/-- The number of four digits. -/
def fourDigits? : List Char → Option (Nat × List Char)
  | a :: b :: c :: d :: rest => do
    some ((((← digit? a) * 10 + (← digit? b)) * 10 + (← digit? c)) * 10 + (← digit? d), rest)
  | _ => none

/-- Number of bytes of a text in UTF-8. -/
def byteCount (cs : List Char) : Nat := cs.foldr (fun c n => c.utf8Size + n) 0

/-- A date at the start of a text, as year, month and day. -/
def readDate (cs : List Char) : Except Reason ((Nat × Nat × Nat) × List Char) := do
  if byteCount cs < 10 then throw .tooShort
  let some (year, cs) := fourDigits? cs | throw .yearCharacter
  let '-' :: cs := cs | throw .dateSeparator
  let some (month, cs) := twoDigits? cs | throw .monthCharacter
  let '-' :: cs := cs | throw .dateSeparator
  let some (day, cs) := twoDigits? cs | throw .dayCharacter
  if month < 1 || 12 < month then throw .monthRange
  if day < 1 || daysInMonth year month < day then throw .dayRange
  if year == 0 then throw .yearRange
  return ((year, month, day), cs)

/-! ## Time of day -/

/-- Seconds and microseconds, absent when no colon leads to them. Digits of the fraction beyond
the sixth are dropped. -/
def readSeconds? (cs : List Char) : Option ((Nat × Nat) × List Char) :=
  match cs with
  | ':' :: rest => do
    let (second, rest) ← twoDigits? rest
    match rest with
    | mark :: rest' =>
      if mark == '.' || mark == ',' then
        let digits := rest'.takeWhile Json.isDigit
        if digits.isEmpty then none
        else
          let six := digits.take 6
          some ((second, Json.digitsValue six * Nat.pow 10 (6 - six.length)),
            rest'.dropWhile Json.isDigit)
      else some ((second, 0), rest)
    | [] => some ((second, 0), [])
  | _ => some ((0, 0), cs)

/-- The minutes of an offset after its hours, with or without a colon. -/
def readOffsetMinutes? : List Char → Option (Nat × List Char)
  | ':' :: rest => twoDigits? rest
  | rest => twoDigits? rest

/-- An offset that makes up the whole of a text. -/
def readOffset? : List Char → Option (Option Int)
  | [] => some none
  | c :: rest =>
    if c == 'Z' || c == 'z' then if rest.isEmpty then some (some 0) else none
    else if c == '+' || c == '-' || c == '−' then do
      let (hours, rest) ← twoDigits? rest
      let (minutes, rest) ← readOffsetMinutes? rest
      if minutes < 60 && rest.isEmpty then
        let total : Int := (hours * 60 + minutes : Nat)
        some (some (if c == '+' then total else -total))
      else none
    else none

/-- The timestamp that a date and the text after it denote. -/
def readTime? (date : Nat × Nat × Nat) (cs : List Char) : Option Timestamp :=
  match cs with
  | separator :: rest => do
    if !(separator == 'T' || separator == 't' || separator == ' ' || separator == '_') then none
    let (hour, rest) ← twoDigits? rest
    match rest with
    | ':' :: rest =>
      let (minute, rest) ← twoDigits? rest
      let ((second, micro), rest) ← readSeconds? rest
      let offset ← readOffset? rest
      ofMoment?
        { year := date.1, month := date.2.1, day := date.2.2
          hour, minute, second, micro, offset }
    | _ => none
  | [] => none

/-! ## Counts of seconds -/

/-- Counts beyond this one are milliseconds. -/
def watershed : Nat := 20000000000

/-- The timestamp of a count of seconds, or of milliseconds, and microseconds. -/
def ofCount (count : Int) (micro : Nat) : Except Reason Timestamp :=
  let (seconds, micro) : Int × Nat :=
    if watershed < count.natAbs then
      (Int.fdiv count 1000, (Int.fmod count 1000).toNat * 1000)
    else (count, micro)
  let (seconds, micro) := (seconds + (micro / 1000000 : Nat), micro % 1000000)
  if seconds < -11676096000 then .error .tooSmall
  else if 253402300799 < seconds then .error .tooLarge
  else
    match ofUnix? seconds micro with
    | some t => .ok t
    | none => .error .tooLarge

/-- The timestamp of a number. -/
def ofReal (x : Binary64) : Except Reason Timestamp :=
  match x.floorParts? 1000000 with
  | some (seconds, micro) => ofCount seconds micro
  | none =>
    match x with
    | .nan => .error .notANumber
    | _ => if x.isNegative then .error .tooSmall else .error .tooLarge

/-- The number that makes up the whole of a text: digits, perhaps a sign, perhaps a point. One with
a point that is out of range does not count as a number. -/
def number? (cs : List Char) : Option (Except Reason Timestamp) :=
  let (negative, body) : Bool × List Char :=
    match cs with
    | '-' :: rest => (true, rest)
    | '+' :: rest => (false, rest)
    | rest => (false, rest)
  let whole := body.takeWhile Json.isDigit
  match whole.isEmpty, body.dropWhile Json.isDigit with
  | false, [] => some (ofCount (Binary64.signed negative (Json.digitsValue whole)) 0)
  | false, '.' :: places =>
    if places.all Json.isDigit then
      (ofReal (Binary64.ofDecimal negative (Json.digitsValue (whole ++ places))
        (-places.length))).toOption.map .ok
    else none
  | _, _ => none

/-! ## The whole of a text -/

/-- The timestamp that a text denotes. -/
def read (cs : List Char) : Except Reason Timestamp :=
  let date := readDate cs
  let dated : Option Timestamp :=
    match date with
    | .ok (d, rest) => readTime? d rest
    | .error _ => none
  match dated, number? cs with
  | some t, _ => .ok t
  | none, some count => count
  | none, none =>
    match date with
    | .error reason => .error reason
    | .ok ((year, month, day), []) =>
      let midnight : Moment :=
        { year, month, day, hour := 0, minute := 0, second := 0, micro := 0, offset := none }
      match ofMoment? midnight with
      | some t => .ok t
      | none => .error .dayRange
    | .ok _ => .error .extraCharacters

end FeatureFlags.Timestamp
