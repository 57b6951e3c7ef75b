import Netlist.Text.Blank

/-!
# Flags

How a written pattern is to be read. Flags are changed within the pattern itself, for the rest of a
group or for a group of its own. The flag that matters most here is `unicode`: it is on to begin
with, and while it is on, everything that would need tables of letters is refused (shorthands such
as `\w`, both cases of a letter, edges of words). While it is off, these mean ASCII, and everything
that could match a part of a character beyond ASCII is refused.
-/

namespace Netlist.Pattern

/-- How a pattern is to be read. -/
structure Flags where
  /-- `i`: letters stand for both cases. -/
  ignoreCase : Bool
  /-- `m`: `^` and `$` are about lines. -/
  multiLine : Bool
  /-- `s`: a dot stands for the end of a line, too. -/
  dotAll : Bool
  /-- `U`: repetitions are greedy if and only if they are marked. -/
  swapGreed : Bool
  /-- `u`: characters are those of all scripts. -/
  unicode : Bool
  /-- `R`: a carriage return may end lines. -/
  returns : Bool
  /-- `x`: white space and comments do not count. -/
  verbose : Bool
deriving DecidableEq, Repr

namespace Flags

/-- How a pattern is read unless it says otherwise. -/
def usual : Flags where
  ignoreCase := false
  multiLine := false
  dotAll := false
  swapGreed := false
  unicode := true
  returns := false
  verbose := false

/-- Sets the flag of a letter. -/
def set (value : Bool) (f : Flags) : Char → Flags
  | 'i' => { f with ignoreCase := value }
  | 'm' => { f with multiLine := value }
  | 's' => { f with dotAll := value }
  | 'U' => { f with swapGreed := value }
  | 'u' => { f with unicode := value }
  | 'R' => { f with returns := value }
  | 'x' => { f with verbose := value }
  | _ => f

/-- The letters of flags. -/
def letters : List Char := ['i', 'm', 's', 'U', 'u', 'R', 'x']

/-- The flags after a change such as `im-s`: the letters before the minus sign are switched on, and
those behind it off. No letter may come twice, and something has to follow the minus sign. -/
def changed? (f : Flags) (change : List Char) : Option Flags :=
  let isLetter (c : Char) : Bool := c != '-'
  let on := change.takeWhile isLetter
  let off := (change.dropWhile isLetter).drop 1
  if change.all (fun c => c == '-' || letters.contains c) && decide change.Nodup &&
      change.getLast? != some '-' then
    some (off.foldl (set false) (on.foldl (set true) f))
  else none

end Flags

/-- The rest of a text without white space and comments in front of it. A comment goes from a hash
sign to the end of the line. -/
def skipFrom (inComment : Bool) : List Char → List Char
  | [] => []
  | c :: rest =>
    if inComment then skipFrom (c != '\n') rest
    else if Text.isWhite c then skipFrom false rest
    else if c == '#' then skipFrom true rest
    else c :: rest

/-- The rest of a text without what does not count in front of it. -/
def skip (f : Flags) (cs : List Char) : List Char :=
  if f.verbose then skipFrom false cs else cs

end Netlist.Pattern
