import FabricUpgrade.Text.Blank

/-!
# Timestamps

A timestamp is a date and a time of day with its offset from universal time, such as
`2001-01-31T23:59:59Z`.  Blanks in front of its parts and leading zeros that are left out do not
matter.  A year of more than four digits and one before the common era need a sign.  The day has to
be one of its month, and the date in universal time one of the calendar.
-/

namespace FabricUpgrade.Text.Timestamp

/-- What is left to read of a text. -/
abbrev Rest := List Char

/-- Reads a number whose digits are those in front. -/
def leading? (shown : List Char) (text : Rest) : Option (Nat × Rest) :=
  if shown.isEmpty then none else some (Nat.ofDigitChars 10 shown 0, text.drop shown.length)

/-- Reads a number of at least one digit and of not more than the given number of them. -/
def number? (digits : Nat) (text : Rest) : Option (Nat × Rest) :=
  let text := text.dropWhile isBlank
  leading? ((text.take digits).takeWhile Char.isDigit) text

/-- Reads past a mark. -/
def mark? (mark : Char) (text : Rest) : Option Rest :=
  match text.dropWhile isBlank with
  | first :: rest => if first = mark then some rest else none
  | [] => none

/-- Whether a year has a leap day. -/
def isLeap (year : Int) : Bool :=
  year % 4 = 0 && (year % 100 ≠ 0 || year % 400 = 0)

/-- The days of a month, which is none of a year beyond the twelfth. -/
def daysOf (year : Int) (month : Nat) : Nat :=
  if month ∈ [1, 3, 5, 7, 8, 10, 12] then 31
  else if month ∈ [4, 6, 9, 11] then 30
  else if month = 2 then (if isLeap year then 29 else 28)
  else 0

/-- A day of the calendar, which counts years without a gap. -/
structure Date where
  year : Int
  month : Nat
  day : Nat
deriving DecidableEq, Repr

/-- The first day of the calendar. -/
def firstDate : Date :=
  ⟨-262143, 1, 1⟩

/-- The last day of the calendar. -/
def lastDate : Date :=
  ⟨262142, 12, 31⟩

/-- Whether a date is a day of its month in a year of the calendar. -/
def Date.isValid (date : Date) : Bool :=
  firstDate.year ≤ date.year && date.year ≤ lastDate.year
    && 1 ≤ date.day && date.day ≤ daysOf date.year date.month

/-- Reads a year. -/
def year? (text : Rest) : Option (Int × Rest) :=
  match text.dropWhile isBlank with
  | '-' :: rest =>
    (leading? (rest.takeWhile Char.isDigit) rest).map fun read => (-(read.1 : Int), read.2)
  | '+' :: rest => (leading? (rest.takeWhile Char.isDigit) rest).map fun read => (read.1, read.2)
  | text => (number? 4 text).map fun read => (read.1, read.2)

/-- Reads a date. -/
def date? (text : Rest) : Option (Date × Rest) := do
  let (year, text) ← year? text
  let (month, text) ← number? 2 (← mark? '-' text)
  let (day, text) ← number? 2 (← mark? '-' text)
  let date : Date := ⟨year, month, day⟩
  if date.isValid then some (date, text) else none

/-- Reads past the fraction of a second, if there is one. -/
def fraction? (text : Rest) : Option Rest :=
  match text with
  | '.' :: rest =>
    match rest with
    | first :: _ => if first.isDigit then some (rest.dropWhile Char.isDigit) else none
    | [] => none
  | _ => some text

/-- Reads the seconds since midnight of a time of day; the sixtieth second is a leap second. -/
def time? (text : Rest) : Option (Nat × Rest) := do
  let (hour, text) ← number? 2 text
  let (minute, text) ← number? 2 (← mark? ':' text)
  let (second, text) ← number? 2 (← mark? ':' text)
  if hour < 24 ∧ minute < 60 ∧ second ≤ 60 then
    return (hour * 3600 + minute * 60 + min second 59, ← fraction? text)
  else none

/-- The seconds of a day. -/
def daySeconds : Nat :=
  86400

/-- Reads two digits of an offset. -/
def pair? (text : Rest) : Option (Nat × Rest) :=
  match text with
  | tens :: ones :: rest =>
    if tens.isDigit ∧ ones.isDigit then some (Nat.ofDigitChars 10 [tens, ones] 0, rest) else none
  | _ => none

/-- Reads hours and minutes in seconds, which have to be less than a day. -/
def span? (text : Rest) : Option (Nat × Rest) := do
  let (hours, text) ← pair? text
  let (minutes, text) ← pair? (text.dropWhile fun character => character = ':' || isBlank character)
  let seconds := hours * 3600 + minutes * 60
  if minutes < 60 ∧ seconds < daySeconds then some (seconds, text) else none

/-- Reads an offset from universal time, in seconds. -/
def offset? (text : Rest) : Option (Int × Rest) :=
  if (text.take 3).map Char.toUpper = ['U', 'T', 'C'] then some (0, text.drop 3)
  else
    match text with
    | 'Z' :: rest | 'z' :: rest => some (0, rest)
    | '+' :: rest => (span? rest).map fun read => (read.1, read.2)
    | '-' :: rest | '\u2212' :: rest => (span? rest).map fun read => (-(read.1 : Int), read.2)
    | _ => none

/-- Whether the date in universal time is one of the calendar. -/
def isWithin (date : Date) (seconds : Nat) (offset : Int) : Bool :=
  let universal := seconds - offset
  (date ≠ firstDate || 0 ≤ universal) && (date ≠ lastDate || universal < daySeconds)

/-- Whether a text is a timestamp. -/
def isValid (text : String) : Bool :=
  let read := do
    let (date, text) ← date? text.toList
    let text ← match text with
      | 'T' :: rest | 't' :: rest | ' ' :: rest => some rest
      | _ => none
    let (seconds, text) ← time? text
    let (offset, text) ← offset? (text.dropWhile isBlank)
    if isWithin date seconds offset then some text else none
  read.any fun rest => rest.all isBlank

example : isValid "2001-01-01T00:00:00Z" = true := by cbv
example : isValid "2001-02-29T00:00:00Z" = false := by cbv
example : isValid "2001-01-01T00:00:00" = false := by cbv

end FabricUpgrade.Text.Timestamp
