/-!
# Double-precision numbers

A finite double-precision number is a mantissa of at most 53 bits times a power of two.
`Binary64.ofDecimal` is the number nearest to a decimal fraction; a fraction halfway between two
numbers goes to the one with the even mantissa.
-/

namespace Netlist

/-- A double-precision number. -/
inductive Binary64 where
  | nan
  | infinite (negative : Bool)
  /-- The number `mantissa * 2 ^ exponent`, negated or not. -/
  | finite (negative : Bool) (mantissa : Nat) (exponent : Int)
deriving DecidableEq, Repr

namespace Binary64

/-- How many bits a mantissa has at most. -/
def precision : Nat := 53

/-- The exponent of the smallest positive number. -/
def minExponent : Int := -1074

/-- The exponent of the greatest finite numbers. -/
def maxExponent : Int := 971

/-- The quotient `n / d`, rounded to the nearest natural number; a half goes to the even one. -/
def roundDiv (n d : Nat) : Nat :=
  if 2 * (n % d) < d || (2 * (n % d) == d && n / d % 2 == 0) then n / d else n / d + 1

/-- The fraction `n / d`, divided by a power of two. -/
def shiftDown (n d : Nat) (exponent : Int) : Nat × Nat :=
  if 0 ≤ exponent then (n, d <<< exponent.toNat) else (n <<< (-exponent).toNat, d)

/-- The exponent with which the mantissa of the fraction `n / d` has all its bits, or the least
exponent there is. -/
def exponentOf (n d : Nat) : Int :=
  let guess : Int := (n.log2 : Int) - d.log2 - (precision - 1)
  -- the guess is right, or one too great
  let (a, b) := shiftDown n d guess
  max minExponent (if a / b < 1 <<< (precision - 1) then guess - 1 else guess)

/-- The number nearest to the fraction `n / d`. -/
def ofRatio (negative : Bool) (n d : Nat) : Binary64 :=
  let exponent := exponentOf n d
  let (a, b) := shiftDown n d exponent
  let rounded := roundDiv a b
  -- rounding up may carry into one more bit
  let (mantissa, exponent) :=
    if rounded = 1 <<< precision then (1 <<< (precision - 1), exponent + 1) else (rounded, exponent)
  if maxExponent < exponent then infinite negative else finite negative mantissa exponent

/-- Decimal fractions with more digits before the point than this are infinite. -/
def decimalMax : Int := 310

/-- Decimal fractions with more zeros after the point than this are zero. -/
def decimalMin : Int := -326

/-- **The number nearest to `digits * 10 ^ exponent`**, negated or not. -/
def ofDecimal (negative : Bool) (digits : Nat) (exponent : Int) : Binary64 :=
  let magnitude := (toString digits).length + exponent
  -- exponents far out are decided without computing a power
  if digits = 0 || magnitude < decimalMin then finite negative 0 minExponent
  else if decimalMax < magnitude then infinite negative
  else if 0 ≤ exponent then ofRatio negative (digits * Nat.pow 10 exponent.toNat) 1
  else ofRatio negative digits (Nat.pow 10 (-exponent).toNat)

/-- A half goes to the even neighbour. -/
example : roundDiv 5 2 = 2 ∧ roundDiv 7 2 = 4 ∧ roundDiv 8 3 = 3 := by decide

end Binary64

end Netlist
