import Converge.Codec.Basic
import Converge.Number.Literal
import Converge.Text.Blank

/-!
# Points of time

A point of time is read from a date and a time of day with an offset, and written as that of the
universal time, in whole seconds. The parts of a text may have fewer digits than usual and blanks
between them; a year of more digits than four has a sign. Days are counted from the first of March
of the year zero, so that a leap day is the last day of its year.
-/

namespace Converge

/-- A point of time: whole seconds since the first of March of the year zero, and whether the
leap second behind that second is meant. -/
structure Timestamp where
  seconds : Int
  isLeapSecond : Bool
  deriving DecidableEq

namespace Timestamp

/-- The years that there are. -/
def years : Int × Int := (-262143, 262142)

/-- The days before a month in a year that starts with March, the months counted from zero. -/
def daysBeforeMonth (month : Nat) : Nat := (153 * month + 2) / 5

/-- The days before a year that starts with March. -/
def daysBeforeYear (year : Int) : Int := 365 * year + year / 4 - year / 100 + year / 400

/-- Whether a year has a leap day. -/
def isLeap (year : Int) : Bool := year % 4 == 0 && (year % 100 != 0 || year % 400 == 0)

/-- The number of days of a month. -/
def daysInMonth (year : Int) (month : Nat) : Nat :=
  if month = 2 then (if isLeap year then 29 else 28)
  else if month = 4 ∨ month = 6 ∨ month = 9 ∨ month = 11 then 30
  else 31

/-- The number of a day since the first of March of the year zero. -/
def dayNumber (year : Int) (month day : Nat) : Int :=
  let shifted := if month ≤ 2 then year - 1 else year
  daysBeforeYear shifted + daysBeforeMonth ((month + 9) % 12) + day - 1

/-- Year, month and day of a day number. -/
def dateOf (number : Int) : Int × Nat × Nat :=
  let era := number / 146097
  let day := (number % 146097).toNat
  let yearOfEra := (day - day / 1460 + day / 36524 - day / 146096) / 365
  let dayOfYear := day - (365 * yearOfEra + yearOfEra / 4 - yearOfEra / 100)
  let month := (5 * dayOfYear + 2) / 153
  let year := era * 400 + yearOfEra
  (if month < 10 then year else year + 1, if month < 10 then month + 3 else month - 9,
    dayOfYear - daysBeforeMonth month + 1)

/-- A number with at least `width` digits. -/
def padded (width n : Nat) : String :=
  let digits := Nat.toDigits 10 n
  String.ofList (List.replicate (width - digits.length) '0' ++ digits)

/-- A year with at least four digits, and with a sign unless it has just four and is no year
before zero. -/
def yearText (year : Int) : String :=
  let sign := if year < 0 then "-" else if 9999 < year then "+" else ""
  sign ++ padded 4 year.natAbs

/-- A point of time in universal time. -/
def toText (time : Timestamp) : String :=
  let (year, month, day) := dateOf (time.seconds / 86400)
  let second := (time.seconds % 86400).toNat
  let date := yearText year ++ "-" ++ padded 2 month ++ "-" ++ padded 2 day
  let leap := if time.isLeapSecond then 1 else 0
  let clock := padded 2 (second / 3600) ++ ":" ++ padded 2 (second / 60 % 60) ++ ":" ++
    padded 2 (second % 60 + leap)
  date ++ "T" ++ clock ++ "Z"

/-- A text without the blanks at its start. -/
def skipBlanks (text : List Char) : List Char := text.dropWhile Text.isBlank

/-- Reads a number of at least one digit and at most `width` ones, or of any number of them if no
width is given. -/
def readNumber (width : Option Nat) (text : List Char) : Except TimeError (Nat × List Char) :=
  let digits := text.takeWhile Char.isDigit
  let digits := (width.map digits.take).getD digits
  let value := Literal.digitsValue digits
  if text.isEmpty then .error .tooShort
  else if digits.isEmpty then .error .invalid
  else if Int64.maxValue.toInt < value then .error .outOfRange
  else .ok (value, text.drop digits.length)

/-- Reads a year behind blanks: four digits at most, or any number of them behind a sign. -/
def readYear (text : List Char) : Except TimeError (Int × List Char) := do
  let (year, rest) ← match skipBlanks text with
    | '-' :: rest => (readNumber none rest).map fun (year, rest) => (-(year : Int), rest)
    | '+' :: rest => (readNumber none rest).map fun (year, rest) => ((year : Int), rest)
    | text => (readNumber (some 4) text).map fun (year, rest) => ((year : Int), rest)
  if Int32.minValue.toInt ≤ year ∧ year ≤ Int32.maxValue.toInt then .ok (year, rest)
  else .error .outOfRange

/-- Reads a part of two digits at most behind blanks, which must lie between two bounds. -/
def readPart (least greatest : Nat) (text : List Char) : Except TimeError (Nat × List Char) := do
  let (part, rest) ← readNumber (some 2) (skipBlanks text)
  if least ≤ part ∧ part ≤ greatest then .ok (part, rest) else .error .outOfRange

/-- Reads one of some characters. -/
def readMark (marks : List Char) : List Char → Except TimeError (List Char)
  | [] => .error .tooShort
  | c :: rest => if marks.contains c then .ok rest else .error .invalid

/-- Reads one of some characters behind blanks. -/
def readSpacedMark (marks : List Char) (text : List Char) : Except TimeError (List Char) :=
  readMark marks (skipBlanks text)

/-- Reads the first digits of a fraction of a second if there is one, and passes all of them. -/
def skipFraction : List Char → Except TimeError (List Char)
  | '.' :: rest => (readNumber (some 9) rest).map fun (_, rest) => rest.dropWhile Char.isDigit
  | rest => .ok rest

/-- Reads the two digits of a part of an offset. A single character is too short for them only if
it is written with a single octet. -/
def readPair : List Char → Except TimeError ((Nat × Nat) × List Char)
  | [] => .error .tooShort
  | [c] => if c.utf8Size = 1 then .error .tooShort else .error .invalid
  | first :: second :: rest =>
    if first.isDigit && second.isDigit then
      .ok ((Literal.digitValue first, Literal.digitValue second), rest)
    else .error .invalid

/-- Reads the hours and the minutes of an offset, with colons or blanks between them or without,
in seconds. -/
def readShift (text : List Char) : Except TimeError (Int × List Char) := do
  let (hours, rest) ← readPair text
  let (minutes, rest) ← readPair (rest.dropWhile fun c => c == ':' || Text.isBlank c)
  if 5 < minutes.1 then .error .outOfRange
  else
    let shift := 3600 * (10 * hours.1 + hours.2) + 60 * (10 * minutes.1 + minutes.2)
    .ok ((shift : Int), rest)

/-- Whether a text starts with the name of the universal time, in any case. -/
def startsUniversal (text : List Char) : Bool :=
  (text.take 3).map Char.toLower == ['u', 't', 'c']

/-- Reads an offset from the universal time, in seconds: a letter or a name for none, or a shift
behind a sign. -/
def readOffset (text : List Char) : Except TimeError (Int × List Char) :=
  if startsUniversal text then .ok (0, text.drop 3)
  else match text with
    | [] => .error .tooShort
    | c :: rest =>
      if c = 'Z' ∨ c = 'z' then .ok (0, rest)
      else if c = '+' then readShift rest
      else if c = '-' ∨ c = '−' then
        (readShift rest).map fun (shift, rest) => (-shift, rest)
      else .error .invalid

/-- The point of time of a date and a time of day in universal time, if its year is one of those
that there are. -/
def ofUniversal (seconds : Int) (isLeapSecond : Bool) : Except TimeError Timestamp :=
  let (year, _, _) := dateOf (seconds / 86400)
  if years.1 ≤ year ∧ year ≤ years.2 then .ok ⟨seconds, isLeapSecond⟩ else .error .impossible

/-- The point of time that a text writes. -/
def parse (text : String) : Except TimeError Timestamp := do
  let (year, rest) ← readYear text.toList
  let rest ← readSpacedMark ['-'] rest
  let (month, rest) ← readPart 1 12 rest
  let rest ← readSpacedMark ['-'] rest
  let (day, rest) ← readPart 1 31 rest
  let rest ← readMark ['T', 't', ' '] rest
  let (hour, rest) ← readPart 0 23 rest
  let rest ← readSpacedMark [':'] rest
  let (minute, rest) ← readPart 0 59 rest
  let rest ← readSpacedMark [':'] rest
  let (second, rest) ← readPart 0 60 rest
  let rest ← skipFraction rest
  let (offset, rest) ← readOffset (skipBlanks rest)
  if !(skipBlanks rest).isEmpty then .error .tooLong
  else if year < years.1 ∨ years.2 < year ∨ daysInMonth year month < day ∨
      86400 ≤ offset.natAbs then .error .outOfRange
  else
    let clock : Int := 3600 * hour + 60 * minute + (min second 59)
    ofUniversal (86400 * dayNumber year month day + clock - offset) (second == 60)

/-- The JSON form of a point of time. -/
def codec : Codec Timestamp :=
  .written "an RFC 3339 formatted date and time string" toText fun text =>
    (parse text).mapError .badTime

end Timestamp

end Converge
