import CredentialSupply.Text.Blank
import CredentialSupply.Text.Digits

set_option autoImplicit false

/-!
# Points of civil time

A `Timestamp` is a point of civil time in UTC. `read` takes the RFC 3339 form, with blanks
allowed around the parts and fewer digits, and `text` writes it with the offset `Z` and a
fraction of no, three, six or nine digits. In a leap second the nanoseconds exceed a second.
-/

namespace CredentialSupply

/-- Civil seconds since the start of 1970 in UTC, and nanoseconds. -/
structure Timestamp where
  seconds : Int
  nanos : Nat
  deriving DecidableEq

namespace Timestamp

/-! ## Dates -/

/-- Whether a year has a leap day. -/
def isLeapYear (year : Int) : Bool := year % 4 = 0 && (year % 100 ≠ 0 || year % 400 = 0)

/-- Days of a month. -/
def daysInMonth (year : Int) (month : Nat) : Nat :=
  if month = 2 then if isLeapYear year then 29 else 28
  else if month = 4 || month = 6 || month = 9 || month = 11 then 30
  else 31

/-- Whether the calendar represents a year. -/
def isYear (year : Int) : Bool := -262143 ≤ year && year ≤ 262142

/-- Days since the start of 1970. Years count from March, so that the leap day is the last one,
in periods of 400 years. -/
def daysOfDate (year : Int) (month day : Nat) : Int :=
  let y := if month ≤ 2 then year - 1 else year
  let period := Int.fdiv y 400
  let yearOfPeriod := y - period * 400
  let monthOfYear : Int := if month > 2 then month - 3 else month + 9
  -- five months from March on have 153 days
  let dayOfYear := (153 * monthOfYear + 2) / 5 + day - 1
  let dayOfPeriod := yearOfPeriod * 365 + yearOfPeriod / 4 - yearOfPeriod / 100 + dayOfYear
  -- a period has 146097 days, and 1970 starts 719468 days after the first of March of the year 0
  period * 146097 + dayOfPeriod - 719468

/-- Year, month and day of a number of days since the start of 1970. -/
def dateOfDays (days : Int) : Int × Nat × Nat :=
  let z := days + 719468
  let period := Int.fdiv z 146097
  let dayOfPeriod := z - period * 146097
  let yearOfPeriod :=
    (dayOfPeriod - dayOfPeriod / 1460 + dayOfPeriod / 36524 - dayOfPeriod / 146096) / 365
  let dayOfYear := dayOfPeriod - (365 * yearOfPeriod + yearOfPeriod / 4 - yearOfPeriod / 100)
  let monthOfYear := (5 * dayOfYear + 2) / 153
  let day := dayOfYear - (153 * monthOfYear + 2) / 5 + 1
  let month := if monthOfYear < 10 then monthOfYear + 3 else monthOfYear - 9
  let year := yearOfPeriod + period * 400 + if month ≤ 2 then 1 else 0
  (year, month.toNat, day.toNat)

/-! ## Reading -/

/-- A number of up to `width` digits, and what follows. -/
def number? (width : Nat) (cs : List Char) : Option (Nat × List Char) :=
  let run := (cs.take width).takeWhile Text.isDigit
  if run.isEmpty then none else some (Text.ofDigits run, cs.drop run.length)

/-- A number of up to two digits after blanks, and what follows. -/
def pair? (cs : List Char) : Option (Nat × List Char) := number? 2 (Text.trimLeft cs)

/-- The year after blanks: four digits at most, or any number of digits after a sign. -/
def year? (cs : List Char) : Option (Int × List Char) :=
  match Text.trimLeft cs with
  | '-' :: rest => (number? rest.length rest).map fun (n, tail) => (-(n : Int), tail)
  | '+' :: rest => (number? rest.length rest).map fun (n, tail) => ((n : Int), tail)
  | rest => (number? 4 rest).map fun (n, tail) => ((n : Int), tail)

/-- What follows the given character, which blanks may precede. -/
def after? (c : Char) (cs : List Char) : Option (List Char) :=
  match Text.trimLeft cs with
  | first :: rest => if first = c then some rest else none
  | [] => none

/-- The nanoseconds after a point, if there is one; digits beyond the ninth do not count. -/
def fraction? (cs : List Char) : Option (Nat × List Char) :=
  match cs with
  | '.' :: rest =>
      let run := rest.takeWhile Text.isDigit
      let kept := run.take 9
      if run.isEmpty then none
      else some (Text.ofDigits kept * Nat.pow 10 (9 - kept.length), rest.drop run.length)
  | _ => some (0, cs)

/-- The offset from UTC in seconds, and what follows: `Z` or `UTC`, or a sign, hours and
minutes. -/
def offset? (cs : List Char) : Option (Int × List Char) :=
  let clock (sign : Int) (rest : List Char) : Option (Int × List Char) :=
    match rest with
    | h :: i :: tail =>
        match tail.dropWhile (fun c => c == ':' || Text.isBlank c) with
        | m :: n :: tail =>
            if [h, i, m, n].all Text.isDigit && Text.digitValue m < 6 then
              let seconds := Text.ofDigits [h, i] * 3600 + Text.ofDigits [m, n] * 60
              some (sign * (seconds : Int), tail)
            else none
        | _ => none
    | _ => none
  match cs with
  | '+' :: rest => clock 1 rest
  | '-' :: rest => clock (-1) rest
  | '\u2212' :: rest => clock (-1) rest
  | 'Z' :: rest => some (0, rest)
  | 'z' :: rest => some (0, rest)
  | _ => if (cs.take 3).map Text.asciiLower = "utc".toList then some (0, cs.drop 3) else none

/-- The point of time written by a text. -/
def read (text : String) : Option Timestamp := do
  let (year, cs) ← year? text.toList
  let cs ← after? '-' cs
  let (month, cs) ← pair? cs
  let cs ← after? '-' cs
  let (day, cs) ← pair? cs
  let cs ← match cs with
    | c :: rest => if c = 'T' || c = 't' || c = ' ' then some rest else none
    | [] => none
  let (hour, cs) ← pair? cs
  let cs ← after? ':' cs
  let (minute, cs) ← pair? cs
  let cs ← after? ':' cs
  let (second, cs) ← pair? cs
  let (nanos, cs) ← fraction? cs
  let (offset, cs) ← offset? (Text.trimLeft cs)
  if cs.all Text.isBlank && isYear year && 1 ≤ month && month ≤ 12 && 1 ≤ day &&
      day ≤ daysInMonth year month && hour ≤ 23 && minute ≤ 59 && second ≤ 60 &&
      offset.natAbs < 86400 then
    let leap := second = 60
    let clock : Int := hour * 3600 + minute * 60 + if leap then 59 else second
    let seconds := daysOfDate year month day * 86400 + clock - offset
    if isYear (dateOfDays (Int.fdiv seconds 86400)).1 then
      some ⟨seconds, if leap then nanos + 1000000000 else nanos⟩
    else none
  else none

/-! ## Writing -/

/-- A year: four digits, or a sign and more when it does not have four. -/
def yearText (year : Int) : String :=
  if 0 ≤ year && year ≤ 9999 then Text.padded 4 (Text.decimalInt year)
  else (if year < 0 then "-" else "+") ++ Text.padded 4 (Text.decimal year.natAbs)

/-- A fraction of a second with no, three, six or nine digits. -/
def fractionText (nanos : Nat) : String :=
  if nanos = 0 then ""
  else if nanos % 1000000 = 0 then "." ++ Text.padded 3 (Text.decimal (nanos / 1000000))
  else if nanos % 1000 = 0 then "." ++ Text.padded 6 (Text.decimal (nanos / 1000))
  else "." ++ Text.padded 9 (Text.decimal nanos)

/-- The point of time in UTC. -/
def text (t : Timestamp) : String :=
  let days := Int.fdiv t.seconds 86400
  let clock := (t.seconds - days * 86400).toNat
  let (year, month, day) := dateOfDays days
  let leap := 1000000000 ≤ t.nanos
  let second := clock % 60 + if leap then 1 else 0
  let two (n : Nat) : String := Text.padded 2 (Text.decimal n)
  yearText year ++ "-" ++ two month ++ "-" ++ two day ++ "T" ++ two (clock / 3600) ++ ":" ++
    two (clock / 60 % 60) ++ ":" ++ two second ++
    fractionText (if leap then t.nanos - 1000000000 else t.nanos) ++ "Z"

end Timestamp

end CredentialSupply
