import Testbench.Text.Digits

/-!
# Dates and times of day

* `Calendar.ofNanos` : the date and time so many nanoseconds after the start of 1970, in
  universal time.
* `Calendar.format?` : a date and time by a template of `%` directives; a template with an unknown
  directive has no text.
-/

namespace Testbench

/-- A date and time of day. Weekdays count from Sunday, which is 0, and days of the year from 1. -/
structure Calendar where
  seconds : Nat
  year : Nat
  month : Nat
  day : Nat
  yearDay : Nat
  weekday : Nat
  hour : Nat
  minute : Nat
  second : Nat
  nanosecond : Nat
  deriving DecidableEq, Repr

namespace Calendar

def isLeap (year : Nat) : Bool := year % 4 == 0 && (year % 100 != 0 || year % 400 == 0)

def monthLengths (year : Nat) : List Nat :=
  [31, if isLeap year then 29 else 28, 31, 30, 31, 30, 31, 31, 30, 31, 30, 31]

/-- The month and the day in it of a day of the year, counted from 0. -/
def splitYearDay : (month : Nat) → (lengths : List Nat) → (day : Nat) → Nat × Nat
  | month, [], day => (month, day + 1)
  | month, n :: rest, day =>
    if day < n then (month, day + 1) else splitYearDay (month + 1) rest (day - n)

def yearLength (year : Nat) : Nat := if isLeap year then 366 else 365

/-- The year and the day in it, counted from 0, of a day counted from the start of `year`. -/
def splitDays : (fuel : Nat) → (year : Nat) → (day : Nat) → Nat × Nat
  | 0, year, day => (year, day)
  | fuel + 1, year, day =>
    if day < yearLength year then (year, day) else splitDays fuel (year + 1) (day - yearLength year)

/-- The date and time so many nanoseconds after the start of 1970. -/
def ofNanos (ns : Nat) : Calendar :=
  let seconds := ns / 1000000000
  let days := seconds / 86400
  let ofDay := seconds % 86400
  let (year, yearDay) := splitDays (days / 365 + 1) 1970 days
  let (month, day) := splitYearDay 1 (monthLengths year) yearDay
  { seconds, year, month, day, yearDay := yearDay + 1, weekday := (days + 4) % 7,
    hour := ofDay / 3600, minute := ofDay % 3600 / 60, second := ofDay % 60,
    nanosecond := ns % 1000000000 }

def weekdayNames : List String :=
  ["Sunday", "Monday", "Tuesday", "Wednesday", "Thursday", "Friday", "Saturday"]

def monthNames : List String :=
  ["January", "February", "March", "April", "May", "June", "July", "August", "September", "October",
    "November", "December"]

def weekdayName (c : Calendar) : List Char := (weekdayNames.getD c.weekday "").toList

def monthName (c : Calendar) : List Char := (monthNames.getD (c.month - 1) "").toList

/-- The hour on a dial of twelve. -/
def hour12 (c : Calendar) : Nat := if c.hour % 12 = 0 then 12 else c.hour % 12

/-- The weekday with Monday as 1 and Sunday as 7. -/
def isoWeekday (c : Calendar) : Nat := if c.weekday = 0 then 7 else c.weekday

/-- The number of such weeks of a year whose first day is `firstWeekday`: a year has 53 if it starts
on a Thursday, or is a leap year and starts on a Wednesday. -/
def isoWeeks (year firstWeekday : Nat) : Nat :=
  if firstWeekday = 4 ∨ (firstWeekday = 3 ∧ isLeap year) then 53 else 52

/-- The year and week by weeks that start on Monday and belong to the year of their Thursday. -/
def isoWeek (c : Calendar) : Nat × Nat :=
  let january := (c.weekday + 371 - (c.yearDay - 1)) % 7
  let week := (c.yearDay + 10 - c.isoWeekday) / 7
  if week = 0 then
    let before := (january + 7 - yearLength (c.year - 1) % 7) % 7
    (c.year - 1, isoWeeks (c.year - 1) before)
  else if isoWeeks c.year january < week then (c.year + 1, 1)
  else (c.year, week)

/-- How a number is filled up to its width. -/
inductive Pad where
  | none
  | zero
  | space
  deriving DecidableEq, Repr

/-- A number filled up on the left. -/
def padded (pad : Pad) (width n : Nat) : List Char :=
  let digits := Nat.toDigits 10 n
  match pad with
  | .none => digits
  | .zero => List.replicate (width - digits.length) '0' ++ digits
  | .space => List.replicate (width - digits.length) ' ' ++ digits

/-- The numeric directives: the number, its width and what fills it. -/
def number? (c : Calendar) (directive : Char) : Option (Nat × Nat × Pad) :=
  match directive with
  | 'Y' => some (c.year, 4, .zero)
  | 'C' => some (c.year / 100, 2, .zero)
  | 'y' => some (c.year % 100, 2, .zero)
  | 'q' => some ((c.month + 2) / 3, 1, .zero)
  | 'm' => some (c.month, 2, .zero)
  | 'd' => some (c.day, 2, .zero)
  | 'e' => some (c.day, 2, .space)
  | 'j' => some (c.yearDay, 3, .zero)
  | 'w' => some (c.weekday, 1, .zero)
  | 'u' => some (c.isoWeekday, 1, .zero)
  | 'U' => some ((c.yearDay + 6 - c.weekday) / 7, 2, .zero)
  | 'W' => some ((c.yearDay + 7 - c.isoWeekday) / 7, 2, .zero)
  | 'G' => some (c.isoWeek.1, 4, .zero)
  | 'g' => some (c.isoWeek.1 % 100, 2, .zero)
  | 'V' => some (c.isoWeek.2, 2, .zero)
  | 'H' => some (c.hour, 2, .zero)
  | 'k' => some (c.hour, 2, .space)
  | 'I' => some (c.hour12, 2, .zero)
  | 'l' => some (c.hour12, 2, .space)
  | 'M' => some (c.minute, 2, .zero)
  | 'S' => some (c.second, 2, .zero)
  | 'f' => some (c.nanosecond, 9, .zero)
  | 's' => some (c.seconds, 1, .none)
  | _ => none

/-- A numeric directive as it stands. -/
def numeral (c : Calendar) (directive : Char) : List Char :=
  match c.number? directive with
  | some (n, width, pad) => padded pad width n
  | none => []

/-- Numeric directives and the characters between them. -/
def compose (c : Calendar) (template : String) : List Char :=
  template.toList.flatMap fun d => if d.isAlpha then c.numeral d else [d]

/-- The first digits of the fraction of a second. -/
def fraction (c : Calendar) (digits : Nat) : List Char :=
  (padded .zero 9 c.nanosecond).take digits

/-- The fraction of a second after a point, in as many groups of three digits as it takes; none
for a whole second. -/
def shortFraction (c : Calendar) : List Char :=
  if c.nanosecond = 0 then []
  else if c.nanosecond % 1000000 = 0 then '.' :: c.fraction 3
  else if c.nanosecond % 1000 = 0 then '.' :: c.fraction 6
  else '.' :: c.fraction 9

/-- The directives that are not numbers. -/
def text? (c : Calendar) (directive : Char) : Option (List Char) :=
  match directive with
  | 'a' => some (c.weekdayName.take 3)
  | 'A' => some c.weekdayName
  | 'b' => some (c.monthName.take 3)
  | 'h' => some (c.monthName.take 3)
  | 'B' => some c.monthName
  | 'D' => some (c.compose "m/d/y")
  | 'x' => some (c.compose "m/d/y")
  | 'F' => some (c.compose "Y-m-d")
  | 'v' => some (c.numeral 'e' ++ '-' :: c.monthName.take 3 ++ '-' :: c.numeral 'Y')
  | 'R' => some (c.compose "H:M")
  | 'T' => some (c.compose "H:M:S")
  | 'X' => some (c.compose "H:M:S")
  | 'r' => some (c.compose "I:M:S " ++ (if c.hour < 12 then ['A', 'M'] else ['P', 'M']))
  | 'p' => some (if c.hour < 12 then ['A', 'M'] else ['P', 'M'])
  | 'P' => some (if c.hour < 12 then ['a', 'm'] else ['p', 'm'])
  | 'c' => some (c.weekdayName.take 3 ++ ' ' :: c.monthName.take 3 ++ ' ' :: c.compose "e H:M:S Y")
  | 'Z' => some "+00:00".toList
  | 'z' => some "+0000".toList
  | '+' => some (c.compose "Y-m-d" ++ 'T' :: c.compose "H:M:S" ++ c.shortFraction ++
      "+00:00".toList)
  | 'n' => some ['\n']
  | 't' => some ['\t']
  | '%' => some ['%']
  | _ => none

/-- What is put in front of a directive to change how it is filled. -/
def padOf? (c : Char) : Option Pad :=
  match c with
  | '-' => some .none
  | '_' => some .space
  | '0' => some .zero
  | _ => none

/-- A directive after its percent sign: its text and how many characters it has. -/
def directive? (c : Calendar) (s : List Char) : Option (List Char × Nat) :=
  match s with
  | ':' :: ':' :: ':' :: 'z' :: _ => some ("+00".toList, 4)
  | ':' :: ':' :: 'z' :: _ => some ("+00:00:00".toList, 3)
  | ':' :: 'z' :: _ => some ("+00:00".toList, 2)
  | '.' :: 'f' :: _ => some (c.shortFraction, 2)
  | '.' :: d :: 'f' :: _ =>
    if d = '3' ∨ d = '6' ∨ d = '9' then some ('.' :: c.fraction (d.toNat - 48), 3) else none
  | d :: rest =>
    match padOf? d with
    | some pad =>
      rest.head?.bind fun e => (c.number? e).map fun (n, width, _) => (padded pad width n, 2)
    | none =>
      if (d = '3' ∨ d = '6' ∨ d = '9') ∧ rest.head? = some 'f' then
        some (c.fraction (d.toNat - 48), 2)
      else match c.number? d with
        | some _ => some (c.numeral d, 1)
        | none => (c.text? d).map (·, 1)
  | [] => none

/-- The text of a template without its first `skip` characters. -/
def formatFrom? (c : Calendar) : (skip : Nat) → List Char → Option (List Char)
  | _, [] => some []
  | skip + 1, _ :: rest => formatFrom? c skip rest
  | 0, d :: rest =>
    if d = '%' then
      (c.directive? rest).bind fun (text, used) => (formatFrom? c used rest).map (text ++ ·)
    else (formatFrom? c 0 rest).map (d :: ·)

/-- The text of a template, if every directive in it is known. -/
def format? (c : Calendar) (template : String) : Option String :=
  (formatFrom? c 0 template.toList).map String.ofList

end Calendar

end Testbench
