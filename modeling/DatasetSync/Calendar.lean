import DatasetSync.Text.Blank
import DatasetSync.Text.Digits

/-!
# Calendar

Points in time, the calendar dates they fall on, and their usual text `2024-06-07T08:46:40.123Z`.
A second that was inserted into the day shows as second 60; it is kept as a fraction of a whole
second or more.
-/

namespace DatasetSync

/-- A point in time: seconds since the start of 1970 and billionths of a second. -/
structure Timestamp where
  seconds : Int
  nanos : Nat
  deriving DecidableEq, Repr, Inhabited

structure CalendarDate where
  year : Int
  month : Nat
  day : Nat
  deriving DecidableEq, Repr, Inhabited

namespace CalendarDate

/-- Every fourth year is a leap year, but of the years that end a century only every fourth. -/
def isLeap (year : Int) : Bool :=
  year % 4 == 0 && (year % 100 != 0 || year % 400 == 0)

def daysIn (year : Int) (month : Nat) : Nat :=
  if month = 2 then if isLeap year then 29 else 28
  else if month = 4 ∨ month = 6 ∨ month = 9 ∨ month = 11 then 30
  else 31

def isValid (date : CalendarDate) : Bool :=
  1 ≤ date.month && date.month ≤ 12 && 1 ≤ date.day && date.day ≤ daysIn date.year date.month

def isCovered (date : CalendarDate) : Bool :=
  -262143 ≤ date.year && date.year ≤ 262142

/--
The day that many days after the start of 1970.  Years are counted from March, so that the leap day
is the last of its year, in cycles of 400 years.
-/
def ofDays (days : Int) : CalendarDate :=
  let shifted := days + 719468
  let cycle := shifted.fdiv 146097
  let dayOfCycle := (shifted.fmod 146097).toNat
  let yearOfCycle :=
    (dayOfCycle - dayOfCycle / 1460 + dayOfCycle / 36524 - dayOfCycle / 146096) / 365
  let dayOfYear := dayOfCycle - (365 * yearOfCycle + yearOfCycle / 4 - yearOfCycle / 100)
  let shiftedMonth := (5 * dayOfYear + 2) / 153
  let month := if shiftedMonth < 10 then shiftedMonth + 3 else shiftedMonth - 9
  let year : Int := yearOfCycle + cycle * 400
  { year := if month ≤ 2 then year + 1 else year
    month
    day := dayOfYear - (153 * shiftedMonth + 2) / 5 + 1 }

def toDays (date : CalendarDate) : Int :=
  let year := if date.month ≤ 2 then date.year - 1 else date.year
  let cycle := year.fdiv 400
  let yearOfCycle := (year.fmod 400).toNat
  let shiftedMonth := if 2 < date.month then date.month - 3 else date.month + 9
  let dayOfYear := (153 * shiftedMonth + 2) / 5 + date.day - 1
  let dayOfCycle := yearOfCycle * 365 + yearOfCycle / 4 - yearOfCycle / 100 + dayOfYear
  cycle * 146097 + dayOfCycle - 719468

/-- The year to four digits; one outside that range has its sign in front. -/
def yearText (year : Int) : String :=
  if 0 ≤ year ∧ year ≤ 9999 then Text.padded 4 year.toNat
  else if year < 0 then "-" ++ Text.padded 4 year.natAbs
  else "+" ++ Text.padded 4 year.natAbs

def text (date : CalendarDate) : String :=
  s!"{yearText date.year}-{Text.padded 2 date.month}-{Text.padded 2 date.day}"

end CalendarDate

namespace Timestamp

def secondsPerDay : Int := 86400

def nanosPerSecond : Nat := 1000000000

def date (time : Timestamp) : CalendarDate :=
  CalendarDate.ofDays (time.seconds.fdiv secondsPerDay)

def secondOfDay (time : Timestamp) : Nat :=
  (time.seconds.fmod secondsPerDay).toNat

/-- Hours, minutes and seconds; an inserted second counts as the sixtieth. -/
def clockText (time : Timestamp) : String :=
  let second := time.secondOfDay % 60 + time.nanos / nanosPerSecond
  let hours := Text.padded 2 (time.secondOfDay / 3600)
  let minutes := Text.padded 2 (time.secondOfDay / 60 % 60)
  s!"{hours}:{minutes}:{Text.padded 2 second}"

def fraction (time : Timestamp) : Nat :=
  time.nanos % nanosPerSecond

/-- The fraction to the fewest of no, three, six or nine digits that are exact. -/
def fractionText (time : Timestamp) : String :=
  if time.fraction = 0 then ""
  else if time.fraction % 1000000 = 0 then "." ++ Text.padded 3 (time.fraction / 1000000)
  else if time.fraction % 1000 = 0 then "." ++ Text.padded 6 (time.fraction / 1000)
  else "." ++ Text.padded 9 time.fraction

def text (time : Timestamp) : String :=
  s!"{time.date.text}T{time.clockText}{time.fractionText}Z"

/-- The text of a point in time, cut to millionths of a second. -/
def microText (time : Timestamp) : String :=
  s!"{time.date.text}T{time.clockText}.{Text.padded 6 (time.fraction / 1000)}Z"

/-- The time of day, cut to thousandths of a second. -/
def shortText (time : Timestamp) : String :=
  s!"{time.clockText}.{Text.padded 3 (time.fraction / 1000000)}"

/-! ## Reading -/

/-- A number of at most `width` digits, with blanks in front. -/
def readNumber? (width : Nat) (text : List Char) : Option (Nat × List Char) :=
  let text := Text.trimStart text
  let digits := (text.take width).takeWhile Text.isDecimal
  if digits = [] then none
  else some (Text.numberFrom 10 digits, text.drop digits.length)

/-- A year of up to four digits, or of any number of digits after a sign. -/
def readYear? (text : List Char) : Option (Int × List Char) :=
  match Text.trimStart text with
  | '-' :: rest => do
      let (year, rest) ← readSigned? rest
      return (-(year : Int), rest)
  | '+' :: rest => do
      let (year, rest) ← readSigned? rest
      return ((year : Int), rest)
  | text => do
      let (year, rest) ← readNumber? 4 text
      return ((year : Int), rest)
where
  /-- The digits after a sign. -/
  readSigned? (text : List Char) : Option (Nat × List Char) :=
    let digits := text.takeWhile Text.isDecimal
    if digits = [] then none
    else some (Text.numberFrom 10 digits, text.drop digits.length)

def readMark? (mark : Char) (text : List Char) : Option (List Char) :=
  match Text.trimStart text with
  | first :: rest => if first = mark then some rest else none
  | [] => none

def readDate? (text : List Char) : Option (CalendarDate × List Char) := do
  let (year, rest) ← readYear? text
  let (month, rest) ← readNumber? 2 (← readMark? '-' rest)
  let (day, rest) ← readNumber? 2 (← readMark? '-' rest)
  let date : CalendarDate := ⟨year, month, day⟩
  if date.isValid ∧ date.isCovered then return (date, rest) else none

/-- The fraction after a point, of which nine digits count. -/
def readFraction? (text : List Char) : Option (Nat × List Char) :=
  match text with
  | '.' :: rest =>
      let digits := rest.takeWhile Text.isDecimal
      if digits = [] then none
      else
        let counted := digits.take 9
        some (Text.numberFrom 10 counted * Nat.pow 10 (9 - counted.length), rest.drop digits.length)
  | _ => some (0, text)

/-- Seconds since the start of the day and billionths; second 60 is an inserted one. -/
def readClock? (text : List Char) : Option ((Nat × Nat) × List Char) := do
  let (hour, rest) ← readNumber? 2 text
  let (minute, rest) ← readNumber? 2 (← readMark? ':' rest)
  let (second, rest) ← readNumber? 2 (← readMark? ':' rest)
  let (nanos, rest) ← readFraction? rest
  if 24 ≤ hour ∨ 60 ≤ minute ∨ 60 < second then none
  else if second = 60 then
    return ((hour * 3600 + minute * 60 + 59, nanosPerSecond + nanos), rest)
  else
    return ((hour * 3600 + minute * 60 + second, nanos), rest)

def readPair? : List Char → Option (Nat × List Char)
  | first :: second :: rest => do
      let tens ← Text.decimal? first
      let ones ← Text.decimal? second
      return (tens * 10 + ones, rest)
  | _ => none

/-- Hours and minutes of an offset, in seconds, below a day. -/
def readHoursMinutes? (text : List Char) : Option (Nat × List Char) := do
  let (hours, rest) ← readPair? text
  let (minutes, rest) ← readPair? (rest.dropWhile fun c => c = ':' || Text.isBlank c)
  if 60 ≤ minutes ∨ 24 ≤ hours then none
  else return (hours * 3600 + minutes * 60, rest)

def readOffset? (text : List Char) : Option (Int × List Char) :=
  match Text.trimStart text with
  | 'Z' :: rest | 'z' :: rest => some (0, rest)
  | '+' :: rest => do
      let (seconds, rest) ← readHoursMinutes? rest
      return ((seconds : Int), rest)
  | '-' :: rest | '−' :: rest => do
      let (seconds, rest) ← readHoursMinutes? rest
      return (-(seconds : Int), rest)
  | first :: second :: third :: rest =>
      if String.ofList ([first, second, third].map Char.toUpper) = "UTC" then some (0, rest)
      else none
  | _ => none

/-- What stands between the day and the time of day. -/
def readJoint? : List Char → Option (List Char)
  | 'T' :: rest | 't' :: rest | ' ' :: rest => some rest
  | _ => none

/-- Read a point in time given with its distance from universal time. -/
def ofText? (text : String) : Option Timestamp := do
  let (date, rest) ← readDate? text.toList
  let ((second, nanos), rest) ← readClock? (← readJoint? rest)
  let (offset, rest) ← readOffset? rest
  let time : Timestamp := ⟨date.toDays * secondsPerDay + second - offset, nanos⟩
  if Text.trimStart rest = [] ∧ time.date.isCovered then return time else none

end Timestamp

end DatasetSync
