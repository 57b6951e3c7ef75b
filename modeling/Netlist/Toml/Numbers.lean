import Netlist.Decimal.Binary64
import Netlist.Toml.Reader

/-!
# Numbers

Integers are written in base ten with an optional sign, or in base sixteen, eight or two after `0x`,
`0o` or `0b`; they fit into 64 bits. Other numbers have a fraction, an exponent or both. Between two
digits there may be an underscore.
-/

namespace Netlist.Toml

/-- A decimal digit. -/
def isDigit (c : Char) : Bool :=
  c.isDigit

/-- The digits that go on a number. -/
def moreDigits (valid : Char → Bool) : List Char → List Char × List Char
  | [] => ([], [])
  -- an underscore counts only between two digits
  | '_' :: c :: rest =>
    if valid c then
      let (digits, after) := moreDigits valid rest
      (c :: digits, after)
    else ([], '_' :: c :: rest)
  | c :: rest =>
    if valid c then
      let (digits, after) := moreDigits valid rest
      (c :: digits, after)
    else ([], c :: rest)

/-- One digit or more. -/
def digits? (valid : Char → Bool) : Reader (List Char)
  | [] => none
  | c :: rest =>
    if valid c then
      let (digits, after) := moreDigits valid rest
      some (c :: digits, after)
    else none

/-- The digits of a number in base ten; a zero in front is the whole number. -/
def decimalDigits? : Reader (List Char)
  -- digits after the zero are left over, and whoever reads on fails at them
  | '0' :: rest => some (['0'], rest)
  | cs => digits? isDigit cs

/-- A sign, which may be left out: is the number negative? -/
def sign : List Char → Bool × List Char
  | '+' :: rest => (false, rest)
  | '-' :: rest => (true, rest)
  | cs => (false, cs)

/-- The value of a digit, be it decimal or a letter. -/
def digitValue (c : Char) : Nat :=
  if c.isDigit then c.toNat - '0'.toNat
  else if 'a' ≤ c then c.toNat - 'a'.toNat + 10
  else c.toNat - 'A'.toNat + 10

/-- The number with the given digits. -/
def ofDigits (base : Nat) (digits : List Char) : Nat :=
  digits.foldl (fun n c => n * base + digitValue c) 0

/-! ### Integers -/

/-- An integer that fits into 64 bits. -/
def fitting? (n : Int) : Option Int :=
  if Int64.minValue.toInt ≤ n && n ≤ Int64.maxValue.toInt then some n else none

/-- A digit of base sixteen. -/
def isHexDigit (c : Char) : Bool :=
  c.isDigit || ('a' ≤ c && c ≤ 'f') || ('A' ≤ c && c ≤ 'F')

/-- A digit of a base below ten. -/
def isDigitBelow (base : Nat) (c : Char) : Bool :=
  c.isDigit && digitValue c < base

/-- An integer without a sign in the given base. -/
def based? (base : Nat) (valid : Char → Bool) : Reader Int := fun cs => do
  let (digits, rest) ← digits? valid cs
  return (← fitting? (ofDigits base digits), rest)

/-- **An integer.** -/
def integer? : Reader Int
  | '0' :: 'x' :: rest => based? 16 isHexDigit rest
  | '0' :: 'o' :: rest => based? 8 (isDigitBelow 8) rest
  | '0' :: 'b' :: rest => based? 2 (isDigitBelow 2) rest
  | cs => do
    let (negative, cs) := sign cs
    let (digits, rest) ← decimalDigits? cs
    let n := ofDigits 10 digits
    return (← fitting? (if negative then -n else n), rest)

/-! ### Numbers with a point or an exponent -/

/-- The digits after a point. -/
def fraction? : Reader (List Char)
  | '.' :: rest => digits? isDigit rest
  | _ => none

/-- An exponent. -/
def exponent? : Reader Int
  | c :: rest =>
    if c == 'e' || c == 'E' then do
      let (negative, rest) := sign rest
      let (digits, rest) ← digits? isDigit rest
      let n := ofDigits 10 digits
      return (if negative then -n else n, rest)
    else none
  | [] => none

/-- What follows the whole part of a number: the digits of its fraction, and its exponent. One of
the two has to be there. -/
def scale? (cs : List Char) : Option ((List Char × Int) × List Char) :=
  match fraction? cs with
  | some (digits, rest) =>
    match exponent? rest with
    | some (exponent, rest') => some ((digits, exponent), rest')
    | none => some ((digits, 0), rest)
  | none => (exponent? cs).map fun x => (([], x.1), x.2)

/-- Numbers must not be too great to be finite; on the negative side they may. -/
def finite? (x : Binary64) : Option Binary64 :=
  if x = .infinite false then none else some x

/-- The names of numbers that have no digits. -/
def namedFloat? (negative : Bool) : Reader Binary64
  | 'i' :: 'n' :: 'f' :: rest => some (.infinite negative, rest)
  | 'n' :: 'a' :: 'n' :: rest => some (.nan, rest)
  | _ => none

/-- A number with digits and a fraction or an exponent. -/
def writtenFloat? (negative : Bool) : Reader Binary64 := fun cs => do
  let (whole, rest) ← decimalDigits? cs
  let ((fraction, exponent), rest) ← scale? rest
  let x := Binary64.ofDecimal negative (ofDigits 10 (whole ++ fraction))
    (exponent - fraction.length)
  return (← finite? x, rest)

/-- **A number that is not an integer.** -/
def float? : Reader Binary64 := fun cs =>
  let (negative, cs) := sign cs
  -- a name is tried only where there are no digits
  (writtenFloat? negative).orElse (namedFloat? negative) cs

end Netlist.Toml
