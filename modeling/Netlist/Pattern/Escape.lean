import Netlist.Pattern
import Netlist.Pattern.Flags

/-!
# Escapes

What a backslash and the characters after it stand for in a written pattern: a character, a
shorthand for a set of characters, or a condition on the place.
-/

namespace Netlist.Pattern

/-! ### Named sets -/

/-- The range between two characters. -/
def between (a b : Char) : Nat × Nat := (a.toNat, b.toNat)

/-- The ASCII characters that words consist of. -/
def wordSet : Text.Ranges :=
  [between '0' '9', between 'A' 'Z', between '_' '_', between 'a' 'z']

/-- ASCII white space. -/
def spaceSet : Text.Ranges := [between '\t' '\r', between ' ' ' ']

/-- ASCII digits. -/
def digitSet : Text.Ranges := [between '0' '9']

/-- The sets of ASCII characters that have a name. -/
def namedSets : List (String × Text.Ranges) :=
  [("alnum", [between '0' '9', between 'A' 'Z', between 'a' 'z']),
   ("alpha", [between 'A' 'Z', between 'a' 'z']),
   ("ascii", [(0, 0x7F)]),
   ("blank", [between '\t' '\t', between ' ' ' ']),
   ("cntrl", [(0, 0x1F), (0x7F, 0x7F)]),
   ("digit", digitSet),
   ("graph", [between '!' '~']),
   ("lower", [between 'a' 'z']),
   ("print", [between ' ' '~']),
   ("punct", [between '!' '/', between ':' '@', between '[' (Char.ofNat 0x60),
     between '\x7b' '~']),
   ("space", spaceSet),
   ("upper", [between 'A' 'Z']),
   ("word", wordSet),
   ("xdigit", [between '0' '9', between 'A' 'F', between 'a' 'f'])]

/-! ### Reading escapes -/

/-- What an escape stands for. -/
inductive Escape where
  /-- A character; perhaps it was written as the number of a byte. -/
  | literal (c : Char) (isByte : Bool)
  /-- A set of ASCII characters, or all characters but those. -/
  | shorthand (set : Text.Ranges) (negated : Bool)
  | look (l : Look)
deriving DecidableEq, Repr

namespace Escape

/-- The letters that stand for a character of their own. -/
def controls : List (Char × Nat) :=
  [('a', 0x07), ('f', 0x0C), ('t', 0x09), ('n', 0x0A), ('r', 0x0D), ('v', 0x0B)]

/-- The letters that stand for a shorthand. -/
def shorthands : List (Char × Escape) :=
  [('d', shorthand digitSet false), ('D', shorthand digitSet true),
   ('s', shorthand spaceSet false), ('S', shorthand spaceSet true),
   ('w', shorthand wordSet false), ('W', shorthand wordSet true)]

/-- The characters that stand for a condition. -/
def looks : List (Char × Look) :=
  [('A', .textStart), ('z', .textEnd), ('b', .wordEdge), ('B', .noWordEdge), ('<', .wordStart),
   ('>', .wordEnd)]

/-- The letters before a number, with the count of its digits. -/
def numberSizes : List (Char × Nat) := [('x', 2), ('u', 4), ('U', 8)]

/-- The value of a hexadecimal digit. -/
def hexDigit? (c : Char) : Option Nat :=
  if c.isDigit then some (c.toNat - '0'.toNat)
  else if 'a' ≤ c && c ≤ 'f' then some (c.toNat - 'a'.toNat + 10)
  else if 'A' ≤ c && c ≤ 'F' then some (c.toNat - 'A'.toNat + 10)
  else none

/-- Reads a number of so many digits. What does not count is skipped after each. -/
def number? (f : Flags) : Nat → Nat → List Char → Option (Nat × List Char)
  | 0, value, cs => some (value, cs)
  | _ + 1, _, [] => none
  | count + 1, value, c :: rest => do
    let digit ← hexDigit? c
    number? f count (16 * value + digit) (skip f rest)

/-- **Reads an escape** after its backslash. Letters and digits that have no meaning are refused;
all other ASCII characters stand for themselves. -/
def read? (f : Flags) : List Char → Option (Escape × List Char)
  | [] => none
  | c :: rest =>
    match numberSizes.lookup c, shorthands.lookup c, looks.lookup c, controls.lookup c with
    | some count, _, _, _ => do
      let (value, rest) ← number? f count 0 (skip f rest)
      if value.isValidChar then
        some (literal (Char.ofNat value) (c == 'x'), rest)
      else none
    | _, some escape, _, _ => some (escape, rest)
    -- a brace after an edge could only name a kind of edge, or count
    | _, _, some l, _ => if rest.head? == some '\x7b' then none else some (look l, rest)
    | _, _, _, some value => some (literal (Char.ofNat value) false, rest)
    | _, _, _, _ =>
      if c.toNat ≤ 0x7F && !c.isAlphanum then some (literal c false, rest) else none

end Escape

/-! ### What escapes mean -/

/-- The condition that an escape asks for. Edges of words are about ASCII words alone, and are
refused where words are those of all scripts. -/
def lookMeant? (f : Flags) (l : Look) : Option Look :=
  match l with
  | .textStart | .textEnd => some l
  | _ => if f.unicode then none else some l

/-- The set that a shorthand stands for: refused where it would be one of all scripts, or not of
ASCII characters. -/
def shorthandMeant? (f : Flags) (set : Text.Ranges) (negated : Bool) : Option Text.Ranges :=
  if f.unicode || negated then none else some set

/-- The number of a character in a set. Without `unicode` only ASCII characters can be in sets. -/
def setMember? (f : Flags) (c : Char) : Option Nat :=
  if f.unicode || c.toNat ≤ 0x7F then some c.toNat else none

/-- The set with both cases of its letters, if that is asked for. Beyond ASCII this is known of the
empty set and of the set of everything alone. -/
def folded? (f : Flags) (set : Text.Ranges) : Option Text.Ranges :=
  if !f.ignoreCase then some set
  else if !f.unicode then some set.withBothCases
  else if set = [] || set = Text.Ranges.everything then some set
  else none

/-- The set, or all characters but those. Without `unicode` the latter is refused. -/
def negated? (f : Flags) (negated : Bool) (set : Text.Ranges) : Option Text.Ranges :=
  if !negated then some set
  else if f.unicode then some set.complement
  else none

/-- The pattern of a single character. -/
def literalMeant? (f : Flags) (c : Char) (isByte : Bool) : Option Pattern :=
  if f.unicode then if f.ignoreCase then none else some (.text [c])
  else if isByte && 0x7F < c.toNat then none
  else if f.ignoreCase && c.isAlpha then
    some (.ofSet (Text.Ranges.withBothCases [(c.toNat, c.toNat)]))
  else some (.text [c])

end Netlist.Pattern
