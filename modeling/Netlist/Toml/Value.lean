import Netlist.Decimal.Binary64

/-!
# Configuration values

The values that a configuration text can give to its keys. Tables keep the order in which their
keys were written; dates and times keep their parts, and `Datetime.text` writes them in one
normalised form.
-/

namespace Netlist.Toml

/-- A day of the calendar. -/
structure Date where
  year : Nat
  month : Nat
  day : Nat
deriving DecidableEq, Repr

/-- A time of day. -/
structure Time where
  hour : Nat
  minute : Nat
  second : Nat
  /-- The part of the second that has passed, in billionths. -/
  nanosecond : Nat
deriving DecidableEq, Repr

/-- How far a local time is ahead of the universal one. -/
inductive Offset where
  | zulu
  | minutes (n : Int)
deriving DecidableEq, Repr

/-- A date, a time, or both; an offset only goes with both. -/
structure Datetime where
  date : Option Date
  time : Option Time
  offset : Option Offset
deriving DecidableEq, Repr

/-- A value. -/
inductive Value where
  | string (s : String)
  | integer (n : Int)
  | float (x : Binary64)
  | boolean (b : Bool)
  | datetime (d : Datetime)
  | array (items : List Value)
  /-- Values by key, in the order of the keys. -/
  | table (entries : List (String × Value))
deriving Repr, Inhabited

/-- A table as the whole of a text gives it. -/
abbrev Table := List (String × Value)

/-! ### Dates and times as text -/

/-- A number with at least the given count of digits. -/
def padded (width n : Nat) : String :=
  let digits := toString n
  String.ofList (List.replicate (width - digits.length) '0') ++ digits

/-- Year, month and day. -/
def Date.text (d : Date) : String :=
  padded 4 d.year ++ "-" ++ padded 2 d.month ++ "-" ++ padded 2 d.day

/-- A fraction of a second without trailing zeros; nothing if it is zero. -/
def fractionText (nanosecond : Nat) : String :=
  if nanosecond = 0 then ""
  else "." ++ String.ofList
    ((padded 9 nanosecond).toList.reverse.dropWhile (· == '0')).reverse

/-- Hour, minute and second. -/
def Time.text (t : Time) : String :=
  padded 2 t.hour ++ ":" ++ padded 2 t.minute ++ ":" ++ padded 2 t.second ++
    fractionText t.nanosecond

/-- The sign of an offset with its hours and minutes. -/
def Offset.text : Offset → String
  | zulu => "Z"
  | minutes n =>
    (if n < 0 then "-" else "+") ++ padded 2 (n.natAbs / 60) ++ ":" ++ padded 2 (n.natAbs % 60)

/-- **The normalised text of a date or time.** -/
def Datetime.text (d : Datetime) : String :=
  d.date.elim "" Date.text ++
  (if d.date.isSome && d.time.isSome then "T" else "") ++
  d.time.elim "" Time.text ++
  d.offset.elim "" Offset.text

end Netlist.Toml
