import ResourceOperator.Text.Search

/-!
# Instants

Seconds on the UTC time line, read from RFC 3339 text and written as RFC 3339 text. Reading is
relaxed: blanks may stand around the parts, numbers may have fewer digits, a blank may take the
place of the `T`, and the zone may be written `UTC`. Fractions of a second are dropped.
-/

namespace ResourceOperator

/-- A second of UTC. A leap second is the second after `second`, within the same minute. -/
structure Instant where
  second : Int
  leap : Bool
  deriving DecidableEq, Repr

namespace Instant

/-- Days from 1970-01-01 to a date of the Gregorian calendar. -/
def daysOfDate (year : Int) (month day : Nat) : Int :=
  let y := if month ≤ 2 then year - 1 else year
  let era := y.fdiv 400
  let yoe := y - era * 400
  let mp : Int := (month + 9) % 12
  let doy := (153 * mp + 2) / 5 + day - 1
  let doe := yoe * 365 + yoe / 4 - yoe / 100 + doy
  era * 146097 + doe - 719468

/-- The Gregorian date of a day counted from 1970-01-01. -/
def dateOfDays (days : Int) : Int × Nat × Nat :=
  let z := days + 719468
  let era := z.fdiv 146097
  let doe := z - era * 146097
  let yoe := (doe - doe / 1460 + doe / 36524 - doe / 146096) / 365
  let doy := doe - (365 * yoe + yoe / 4 - yoe / 100)
  let mp := (5 * doy + 2) / 153
  let day := doy - (153 * mp + 2) / 5 + 1
  let month := if mp < 10 then mp + 3 else mp - 9
  let year := yoe + era * 400 + (if month ≤ 2 then 1 else 0)
  (year, month.toNat, day.toNat)

/-- A leap year of the Gregorian calendar. -/
def isLeapYear (year : Int) : Bool :=
  year % 4 == 0 && (year % 100 != 0 || year % 400 == 0)

/-- The days of a month. -/
def daysInMonth (year : Int) (month : Nat) : Nat :=
  if month = 2 then (if isLeapYear year then 29 else 28)
  else if month = 4 ∨ month = 6 ∨ month = 9 ∨ month = 11 then 30
  else 31

/-- A number of at most `width` digits after blanks. -/
def number (width : Nat) (cs : List Char) : Option (Nat × List Char) :=
  let cs := Text.trimStart cs
  let digits := (cs.take width).takeWhile Char.isDigit
  if digits.isEmpty then none
  else some (digits.foldl (fun n c => n * 10 + (c.toNat - '0'.toNat)) 0, cs.drop digits.length)

/-- A year: four digits, or a sign and any digits. -/
def yearNumber (cs : List Char) : Option (Int × List Char) :=
  match Text.trimStart cs with
  | '-' :: rest => if (rest.head?.map Char.isDigit).getD false
    then (number rest.length rest).map fun (n, r) => (-(n : Int), r) else none
  | '+' :: rest => if (rest.head?.map Char.isDigit).getD false
    then (number rest.length rest).map fun (n, r) => ((n : Int), r) else none
  | rest => (number 4 rest).map fun (n, r) => ((n : Int), r)

/-- Blanks and then one given character. -/
def mark (c : Char) (cs : List Char) : Option (List Char) :=
  match Text.trimStart cs with
  | d :: rest => if d = c then some rest else none
  | [] => none

/-- A fraction of a second, if there is one; its digits do not matter. -/
def skipFraction : List Char → Option (List Char)
  | '.' :: rest =>
    if (rest.head?.map Char.isDigit).getD false then some (rest.dropWhile Char.isDigit) else none
  | cs => some cs

/-- Two digits. -/
def twoDigits : List Char → Option (Nat × List Char)
  | a :: b :: rest =>
    if a.isDigit && b.isDigit then
      some ((a.toNat - '0'.toNat) * 10 + (b.toNat - '0'.toNat), rest)
    else none
  | _ => none

/-- Hours and minutes of a zone, in seconds. -/
def zoneAmount (cs : List Char) : Option (Int × List Char) := do
  let (hours, cs) ← twoDigits cs
  let (minutes, cs) ← twoDigits (cs.dropWhile fun c => c == ':' || Text.isBlank c)
  if 59 < minutes then none else some ((hours * 3600 + minutes * 60 : Nat), cs)

/-- A zone, as seconds east of UTC. -/
def zone (cs : List Char) : Option (Int × List Char) :=
  if (cs.take 3).map Char.toUpper = ['U', 'T', 'C'] then some (0, cs.drop 3)
  else match cs with
    | 'Z' :: rest => some (0, rest)
    | 'z' :: rest => some (0, rest)
    | '+' :: rest => zoneAmount rest
    | '-' :: rest => (zoneAmount rest).map fun (n, r) => (-n, r)
    | '\u2212' :: rest => (zoneAmount rest).map fun (n, r) => (-n, r)
    | _ => none

/-- Reads an instant. -/
def parse (text : String) : Option Instant := do
  let (year, cs) ← yearNumber text.toList
  let (month, cs) ← number 2 (← mark '-' cs)
  let (day, cs) ← number 2 (← mark '-' cs)
  let cs ← match cs with
    | c :: rest => if c = 'T' ∨ c = 't' ∨ c = ' ' then some rest else none
    | [] => none
  let (hour, cs) ← number 2 cs
  let (minute, cs) ← number 2 (← mark ':' cs)
  let (second, cs) ← number 2 (← mark ':' cs)
  let (offset, cs) ← zone (Text.trimStart (← skipFraction cs))
  if !(Text.trimStart cs).isEmpty then none
  else if month < 1 ∨ 12 < month ∨ day < 1 ∨ daysInMonth year month < day then none
  else if 23 < hour ∨ 59 < minute ∨ 60 < second ∨ 86400 ≤ offset.natAbs then none
  else if 262143 < year.natAbs then none
  else
    let time : Int := (hour * 3600 + minute * 60 + min second 59 : Nat)
    some ⟨daysOfDate year month day * 86400 + time - offset, second == 60⟩

/-- A number with leading zeros up to a width. -/
def padded (width n : Nat) : String :=
  let digits := Nat.toDigits 10 n
  String.ofList (List.replicate (width - digits.length) '0' ++ digits)

/-- The text of a year: four digits, with a sign outside 0 to 9999. -/
def yearText (year : Int) : String :=
  if 0 ≤ year ∧ year ≤ 9999 then padded 4 year.natAbs
  else (if year < 0 then "-" else "+") ++ padded 4 year.natAbs

/-- The text of an instant, to the second, in UTC. -/
def render (t : Instant) : String :=
  let days := t.second.fdiv 86400
  let s := (t.second - days * 86400).toNat
  let (year, month, day) := dateOfDays days
  yearText year ++ "-" ++ padded 2 month ++ "-" ++ padded 2 day ++ "T" ++
    padded 2 (s / 3600) ++ ":" ++ padded 2 (s / 60 % 60) ++ ":" ++
    padded 2 (s % 60 + if t.leap then 1 else 0) ++ "Z"

end Instant

end ResourceOperator
