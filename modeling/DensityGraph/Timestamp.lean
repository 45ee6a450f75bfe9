import DensityGraph.Decimal.Reading
import DensityGraph.Text

/-! # Moments in time

A moment is read from a date, a time and an offset from universal time, and written in universal time.  Blanks
may stand around the parts of the date and the time when they are read.
-/

namespace DensityGraph

/-- A moment in universal time.  A leap second counts as a second of more than `10 ^ 9` nanoseconds. -/
structure Timestamp where
  /-- days since the first of January 1970 -/
  day : Int
  /-- seconds since midnight -/
  second : Nat
  nanosecond : Nat
  deriving DecidableEq, Repr

namespace Timestamp

open DensityGraph.Decimal (isDigit digitsValue)

def isLeapYear (year : Int) : Bool := year % 4 == 0 && (year % 100 != 0 || year % 400 == 0)

def daysInMonth (year : Int) (month : Nat) : Nat :=
  if month = 2 then (if isLeapYear year then 29 else 28)
  else if month = 4 || month = 6 || month = 9 || month = 11 then 30
  else 31

/-- The day of a date.  Years are counted from March on, so that a leap day ends a year. -/
def dayOfDate (year : Int) (month day : Nat) : Int :=
  let y := if month ≤ 2 then year - 1 else year
  let m : Int := (month + 9) % 12
  365 * y + y / 4 - y / 100 + y / 400 + (153 * m + 2) / 5 + (day : Int) - 1 - 719468

def dateOfDay (day : Int) : Int × Nat × Nat :=
  let z := day + 719468
  let era := z / 146097
  let inEra := z % 146097
  let yearOfEra := (inEra - inEra / 1460 + inEra / 36524 - inEra / 146096) / 365
  let inYear := inEra - (365 * yearOfEra + yearOfEra / 4 - yearOfEra / 100)
  let m := (5 * inYear + 2) / 153
  let dayOfMonth := inYear - (153 * m + 2) / 5 + 1
  let month := if m < 10 then m + 3 else m - 9
  (yearOfEra + era * 400 + (if month ≤ 2 then 1 else 0), month.toNat, dayOfMonth.toNat)

/-- The first year that a moment can lie in. -/
def leastYear : Int := -262143

/-- The last year that a moment can lie in. -/
def greatestYear : Int := 262142

/-- A day within the years that a moment can lie in. -/
def dayInRange (day : Int) : Bool :=
  decide (dayOfDate leastYear 1 1 ≤ day) && decide (day ≤ dayOfDate greatestYear 12 31)

/-- A number of one to `most` digits behind blanks, and what follows. -/
def number? (most : Nat) (text : List Char) : Option (Nat × List Char) :=
  let text := text.dropWhile Text.isBlank
  let digits := (text.take most).takeWhile isDigit
  if digits.isEmpty then none else some (digitsValue 0 digits, text.drop digits.length)

/-- A year behind blanks, of up to four digits unless it has a sign, and what follows. -/
def year? (text : List Char) : Option (Int × List Char) :=
  match text.dropWhile Text.isBlank with
  | '-' :: rest => if rest.head?.any isDigit then (number? rest.length rest).map fun (n, r) => (-(n : Int), r) else none
  | '+' :: rest => if rest.head?.any isDigit then (number? rest.length rest).map fun (n, r) => ((n : Int), r) else none
  | rest => (number? 4 rest).map fun (n, r) => ((n : Int), r)

/-- A character behind blanks, and what follows. -/
def mark? (c : Char) (text : List Char) : Option (List Char) :=
  match text.dropWhile Text.isBlank with
  | first :: rest => if first = c then some rest else none
  | [] => none

/-- The nanoseconds of a fraction, if a point comes next, and what follows. -/
def fraction? : List Char → Option (Nat × List Char)
  | '.' :: rest =>
    let digits := rest.takeWhile isDigit
    if digits.isEmpty then none
    else
      let kept := digits.take 9
      some (digitsValue 0 kept * Nat.pow 10 (9 - kept.length), rest.drop digits.length)
  | rest => some (0, rest)

/-- Two digits and what follows. -/
def twoDigits? : List Char → Option (Nat × List Char)
  | a :: b :: rest => if isDigit a && isDigit b then some (digitsValue 0 [a, b], rest) else none
  | _ => none

/-- An offset from universal time in seconds, and what follows. -/
def offset? (text : List Char) : Option (Int × List Char) :=
  if String.ofList ((text.take 3).map Char.toUpper) = "UTC" then some (0, text.drop 3)
  else
    match text with
    | [] => none
    | sign :: rest =>
      if sign = 'Z' || sign = 'z' then some (0, rest)
      else if sign = '+' || sign = '-' || sign = '\u2212' then do
        let (hours, rest) ← twoDigits? rest
        let (minutes, rest) ← twoDigits? (rest.dropWhile fun c => c == ':' || Text.isBlank c)
        if 60 ≤ minutes then none
        let seconds : Int := hours * 3600 + minutes * 60
        return (if sign = '+' then seconds else -seconds, rest)
      else none

/-- The moment of a date, a time of day and an offset, if they exist. -/
def ofParts? (year : Int) (month day hour minute second nanosecond : Nat) (offset : Int) : Option Timestamp :=
  let dateExists := decide (leastYear ≤ year) && decide (year ≤ greatestYear) && decide (1 ≤ month) &&
    decide (month ≤ 12) && decide (1 ≤ day) && decide (day ≤ daysInMonth year month)
  let timeExists := decide (hour < 24) && decide (minute < 60) && decide (second ≤ 60)
  if dateExists && timeExists && decide (offset.natAbs < 86400) then
    let (second, nanosecond) := if second = 60 then (59, nanosecond + 1000000000) else (second, nanosecond)
    let seconds : Int := dayOfDate year month day * 86400 + (hour * 3600 + minute * 60 + second : Nat) - offset
    if dayInRange (seconds / 86400) then some ⟨seconds / 86400, (seconds % 86400).toNat, nanosecond⟩
    else none
  else none

/-- The moment that a text spells. -/
def parse? (text : String) : Option Timestamp := do
  let (year, rest) ← year? text.toList
  let (month, rest) ← number? 2 (← mark? '-' rest)
  let (day, rest) ← number? 2 (← mark? '-' rest)
  let rest ← match rest with
    | c :: rest => if c = 'T' || c = 't' || c = ' ' then some rest else none
    | [] => none
  let (hour, rest) ← number? 2 rest
  let (minute, rest) ← number? 2 (← mark? ':' rest)
  let (second, rest) ← number? 2 (← mark? ':' rest)
  let (nanosecond, rest) ← fraction? rest
  let (offset, rest) ← offset? (rest.dropWhile Text.isBlank)
  if rest.all Text.isBlank then ofParts? year month day hour minute second nanosecond offset else none

/-- A number with zeros in front up to a width. -/
def padded (width n : Nat) : String :=
  let digits := toString n
  String.ofList (List.replicate (width - digits.length) '0') ++ digits

/-- The fraction of a second, in three, six or nine digits. -/
def fractionText (nanosecond : Nat) : String :=
  if nanosecond = 0 then ""
  else if nanosecond % 1000000 = 0 then "." ++ padded 3 (nanosecond / 1000000)
  else if nanosecond % 1000 = 0 then "." ++ padded 6 (nanosecond / 1000)
  else "." ++ padded 9 nanosecond

/-- A year, with a sign if it does not have four digits. -/
def yearText (year : Int) : String :=
  if 0 ≤ year && year ≤ 9999 then padded 4 year.toNat
  else (if 0 ≤ year then "+" else "-") ++ padded 4 year.natAbs

def dateText (t : Timestamp) : String :=
  let (year, month, day) := dateOfDay t.day
  yearText year ++ "-" ++ padded 2 month ++ "-" ++ padded 2 day

def timeText (t : Timestamp) : String :=
  let leap := 1000000000 ≤ t.nanosecond
  let second := t.second % 60 + (if leap then 1 else 0)
  padded 2 (t.second / 3600) ++ ":" ++ padded 2 (t.second / 60 % 60) ++ ":" ++ padded 2 second ++
    fractionText (if leap then t.nanosecond - 1000000000 else t.nanosecond)

/-- A moment as documents write it. -/
def text (t : Timestamp) : String := t.dateText ++ "T" ++ t.timeText ++ "Z"

/-- A moment as listings write it. -/
def listing (t : Timestamp) : String := t.dateText ++ " " ++ t.timeText ++ " UTC"

end Timestamp

end DensityGraph
