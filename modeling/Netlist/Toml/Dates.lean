import Netlist.Toml.Numbers
import Netlist.Toml.Value

/-!
# Dates and times

A date is written `YYYY-MM-DD`, a time `HH:MM:SS` with an optional fraction, and both together with
a `T` or a blank between them; then an offset may follow.
-/

namespace Netlist.Toml

/-- A number of exactly `count` digits. -/
def fixedNumber? (count : Nat) : Reader Nat := fun cs =>
  let digits := cs.take count
  if digits.length = count && digits.all isDigit then some (ofDigits 10 digits, cs.drop count)
  else none

/-- A number of two digits, between two bounds. -/
def pair? (least greatest : Nat) : Reader Nat := fun cs => do
  let (n, rest) ← fixedNumber? 2 cs
  if least ≤ n && n ≤ greatest then some (n, rest) else none

/-- The text after one given character. -/
def after? (c : Char) : List Char → Option (List Char)
  | [] => none
  | d :: rest => if d == c then some rest else none

/-- Does the year have a leap day? -/
def isLeapYear (year : Nat) : Bool :=
  year % 4 == 0 && (year % 100 != 0 || year % 400 == 0)

/-- How many days a month has. -/
def daysIn (year month : Nat) : Nat :=
  if month = 2 then if isLeapYear year then 29 else 28
  else if month ∈ [4, 6, 9, 11] then 30
  else 31

/-- A day. -/
def date? : Reader Date := fun cs => do
  let (year, cs) ← fixedNumber? 4 cs
  let (month, cs) ← pair? 1 12 (← after? '-' cs)
  let (day, cs) ← pair? 1 (daysIn year month) (← after? '-' cs)
  return ({ year, month, day }, cs)

/-- Billionths from the digits of a fraction; later digits do not count. -/
def billionths (digits : List Char) : Nat :=
  ofDigits 10 ((digits ++ List.replicate 9 '0').take 9)

/-- The fraction of a second, if there is one. -/
def secondFraction : List Char → Nat × List Char
  | '.' :: rest =>
    match rest.takeWhile isDigit with
    | [] => (0, '.' :: rest)
    | digits => (billionths digits, rest.dropWhile isDigit)
  | cs => (0, cs)

/-- A time of day; a minute may have a leap second. -/
def time? : Reader Time := fun cs => do
  let (hour, cs) ← pair? 0 23 cs
  let (minute, cs) ← pair? 0 59 (← after? ':' cs)
  let (second, cs) ← pair? 0 60 (← after? ':' cs)
  let (nanosecond, cs) := secondFraction cs
  return ({ hour, minute, second, nanosecond }, cs)

/-- Hours and minutes of an offset. -/
def offsetMinutes? : Reader Nat := fun cs => do
  let (hour, cs) ← pair? 0 23 cs
  let (minute, cs) ← pair? 0 59 (← after? ':' cs)
  return (hour * 60 + minute, cs)

/-- An offset. -/
def offset? : Reader Offset
  | 'Z' :: rest => some (.zulu, rest)
  | 'z' :: rest => some (.zulu, rest)
  | '+' :: rest => offsetMinutes?.map (fun (n : Nat) => .minutes n) rest
  | '-' :: rest => offsetMinutes?.map (fun (n : Nat) => .minutes (-n)) rest
  | _ => none

/-- The time that follows a date, if one does. -/
def timeAfterDate? : Reader Time
  | c :: rest => if c == 'T' || c == 't' || c == ' ' then time? rest else none
  | [] => none

/-- A date and what follows it. -/
def dateAndTime? : Reader Datetime := fun cs => do
  let (date, cs) ← date? cs
  match timeAfterDate? cs with
  | none => return (⟨some date, none, none⟩, cs)
  | some (time, cs) =>
    match offset? cs with
    | none => return (⟨some date, some time, none⟩, cs)
    | some (offset, cs) => return (⟨some date, some time, some offset⟩, cs)

/-- **A date, a time or both.** -/
def datetime? : Reader Datetime :=
  dateAndTime?.orElse (time?.map fun time => ⟨none, some time, none⟩)

end Netlist.Toml
