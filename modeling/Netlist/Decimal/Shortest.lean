import Netlist.Decimal.Binary64

/-!
# Shortest decimals

A double-precision number is written with the fewest digits that read back as the same number, and
of those digits with the ones nearest to it. The text never uses an exponent and always has a
point.
-/

namespace Netlist.Binary64

/-- A positive number with the bounds of what rounds to it, as fractions of one denominator. -/
structure Interval where
  low : Nat
  value : Nat
  high : Nat
  denominator : Nat
  /-- Do the bounds themselves round to the number? -/
  closed : Bool
deriving DecidableEq, Repr

/-- What rounds to the number `mantissa * 2 ^ exponent`: half the gap to its neighbour on either
side. The gap below a power of two is only half as wide. -/
def intervalOf (mantissa : Nat) (exponent : Int) : Interval :=
  -- all three are quarters of the last bit, so that the narrow gap is a whole number
  let below := if mantissa = 1 <<< (precision - 1) && decide (minExponent < exponent) then 1 else 2
  let unit := 1 <<< (exponent - 2).toNat
  { low := (4 * mantissa - below) * unit
    value := 4 * mantissa * unit
    high := (4 * mantissa + 2) * unit
    denominator := 1 <<< (2 - exponent).toNat
    closed := mantissa % 2 == 0 }

/-- How many decimal digits a natural number has. -/
def digitCount (n : Nat) : Nat :=
  (toString n).length

/-- The least exponent `k` for which `n / d` is below `10 ^ k`. -/
def decimalExponent (n d : Nat) : Int :=
  if d ≤ n then digitCount (n / d) else 1 - digitCount ((d + n - 1) / n - 1)

namespace Interval

/-- Is a number within the bounds? -/
def holds (i : Interval) (n : Nat) : Bool :=
  if i.closed then i.low ≤ n && n ≤ i.high else i.low < n && n < i.high

/-- The same fractions, written so that one unit of `10 ^ exponent` is a natural number. -/
def scaled (i : Interval) (exponent : Int) : Interval :=
  let factor := Nat.pow 10 (-exponent).toNat
  { i with
    low := i.low * factor
    value := i.value * factor
    high := i.high * factor
    denominator := i.denominator * Nat.pow 10 exponent.toNat }

/-- A multiple of `10 ^ exponent` within the bounds, if one of the two next to the number is: the
nearer one, and of two as near the greater one. -/
def multiple? (i : Interval) (exponent : Int) : Option Nat :=
  let s := i.scaled exponent
  let below := s.value / s.denominator
  let above := below + 1
  if s.holds (above * s.denominator) then
    if s.holds (below * s.denominator) &&
        decide (s.value - below * s.denominator < above * s.denominator - s.value)
    then some below else some above
  else if s.holds (below * s.denominator) then some below
  else none

end Interval

/-- Seventeen digits tell all numbers apart. -/
def maxDigits : Nat := 17

/-- The shortest decimal that reads back as `mantissa * 2 ^ exponent`, as digits and a power of
ten. -/
def shortest (mantissa : Nat) (exponent : Int) : Nat × Int :=
  let i := intervalOf mantissa exponent
  let k := decimalExponent i.value i.denominator
  ((List.range maxDigits).findSome? fun (n : Nat) =>
    (i.multiple? (k - (n + 1))).map fun digits =>
      -- a number just below a power of ten may be written as that power
      if digits = Nat.pow 10 (n + 1) then (1, k) else (digits, k - (n + 1))).getD (0, 0)

/-- The text of `digits * 10 ^ exponent`, with a point. -/
def positional (digits : Nat) (exponent : Int) : String :=
  let text := (toString digits).toList
  let zeros (n : Int) : List Char := List.replicate n.toNat '0'
  let point : Int := text.length + exponent
  String.ofList <|
    if 0 ≤ exponent then text ++ zeros exponent ++ ['.', '0']
    else if 0 < point then text.take point.toNat ++ ['.'] ++ text.drop point.toNat
    else ['0', '.'] ++ zeros (-point) ++ text

/-- **The text of a number.** -/
def text : Binary64 → String
  | nan => "NaN"
  | infinite negative => (if negative then "-" else "") ++ "inf"
  | finite negative mantissa exponent =>
    let digits := if mantissa = 0 then (0, 0) else shortest mantissa exponent
    (if negative then "-" else "") ++ positional digits.1 digits.2

end Netlist.Binary64
