/-!
# Ranges of characters

A set of characters as a list of ranges of their numbers. In a *tidy* list the ranges rise, and
between two of them there is always a gap; each set has one tidy list, so that sets can be compared.
The operations below make tidy lists from tidy lists.
-/

namespace Netlist.Text

/-- Ranges of numbers, both ends included. -/
abbrev Ranges := List (Nat × Nat)

/-- Is a number within one of the ranges? -/
def inRanges (ranges : Ranges) (n : Nat) : Bool :=
  ranges.any fun r => r.1 ≤ n && n ≤ r.2

namespace Ranges

/-- The number of the last character. -/
def last : Nat := 0x10FFFF

/-- The set of all characters. -/
def everything : Ranges := [(0, last)]

/-- Adds a range. Ranges that it meets or touches become one with it. -/
def insertRange (lo hi : Nat) : Ranges → Ranges
  | [] => [(lo, hi)]
  | (a, b) :: rest =>
    if hi + 1 < a then (lo, hi) :: (a, b) :: rest
    else if b + 1 < lo then (a, b) :: insertRange lo hi rest
    else insertRange (min lo a) (max hi b) rest

/-- The characters in one set or the other. -/
def union (s t : Ranges) : Ranges :=
  s.foldl (fun acc r => insertRange r.1 r.2 acc) t

/-- The characters from a number on that are not in the set. -/
def gapsFrom (start : Nat) : Ranges → Ranges
  | [] => if start ≤ last then [(start, last)] else []
  | (a, b) :: rest =>
    if start < a then (start, a - 1) :: gapsFrom (b + 1) rest else gapsFrom (b + 1) rest

/-- The characters that are not in the set. -/
def complement (s : Ranges) : Ranges := gapsFrom 0 s

/-- The characters in both sets. -/
def inter (s t : Ranges) : Ranges :=
  complement (union (complement s) (complement t))

/-- The characters in the first set alone. -/
def diff (s t : Ranges) : Ranges :=
  inter s (complement t)

/-- The characters in one of the sets alone. -/
def symmDiff (s t : Ranges) : Ranges :=
  union (diff s t) (diff t s)

/-- The part of a set between two numbers, moved to start at a third. -/
def moved (lo hi target : Nat) (s : Ranges) : Ranges :=
  (inter s [(lo, hi)]).map fun r => (r.1 - lo + target, r.2 - lo + target)

/-- The set with the other case of its ASCII letters. -/
def withBothCases (s : Ranges) : Ranges :=
  let small := moved 'A'.toNat 'Z'.toNat 'a'.toNat s
  let capital := moved 'a'.toNat 'z'.toNat 'A'.toNat s
  union small (union capital s)

end Ranges

end Netlist.Text
