import Netlist.Pattern

/-!
# Searching

A pattern is looked for in a text by following all ways to match it at once, as *threads* in their
order of preference. A thread is what still has to be matched. At each place between two characters
the threads go on as far as they can without a character (`settled`); a thread that comes to where a
preferred one has been already adds nothing and is dropped. A thread with nothing left to match has
found an occurrence, and then all threads behind it are given up.

Threads also begin at every place, behind those that began earlier. So what is found is the first
occurrence, and of those that begin there the preferred one. The question answered here is whether
it reaches to the end of the text (`Pattern.findsEnd`).
-/

namespace Netlist

namespace Pattern

/-- Something that a thread still has to do. -/
inductive Task where
  | part (p : Pattern)
  /-- To match a pattern again or not. -/
  | again (p : Pattern) (greedy : Bool)
  /-- To match a pattern from here, or from any place after it. -/
  | fromHere (p : Pattern)
  /-- To match a pattern from any place after this one. -/
  | fromLater (p : Pattern)
deriving DecidableEq

/-- What is still to be done for an occurrence, in order. -/
abbrev Thread := List Task

namespace Thread

/-- Going into a pattern and going past it, in the order of preference. -/
def inOrder (greedy : Bool) (into past : Thread) : List Thread :=
  if greedy then [into, past] else [past, into]

/-- The threads that a thread becomes without a character. None if it needs one, or is done. -/
def fork? (before after : Option Char) : Thread → Option (List Thread)
  | [] => none
  | .part p :: rest =>
    match p with
    | .empty => some [rest]
    | .text [] => some [rest]
    | .text (_ :: _) => none
    | .oneOf _ => none
    | .look l => some (if l.holds before after then [rest] else [])
    | .seq p q => some [.part p :: .part q :: rest]
    | .either p q => some [.part p :: rest, .part q :: rest]
    | .optional p greedy => some (inOrder greedy (.part p :: rest) rest)
    | .many p greedy => some [.part p :: .again p greedy :: rest]
    | .star p greedy => some (inOrder greedy (.part p :: .again p greedy :: rest) rest)
    | .group _ p => some [.part p :: rest]
  | .again p greedy :: rest => some (inOrder greedy (.part p :: .again p greedy :: rest) rest)
  | .fromHere p :: rest => some [.part p :: rest, .fromLater p :: rest]
  | .fromLater _ :: _ => none

/-- What a thread has left to do after a character, if it can take it. -/
def advance? (c : Char) : Thread → Option Thread
  | .part (.text (d :: cs)) :: rest => if c = d then some (.part (.text cs) :: rest) else none
  | .part (.oneOf set) :: rest => if Text.inRanges set c.toNat then some rest else none
  | .fromLater p :: rest => some (.fromHere p :: rest)
  | _ => none

end Thread

/-- Takes threads as far as they go without a character. Those that have been seen are dropped; the
fuel bounds how many are looked at. -/
def settledFrom (before after : Option Char) (seen : List Thread) :
    Nat → List Thread → List Thread
  | 0, _ => []
  | _, [] => []
  | fuel + 1, thread :: others =>
    if seen.contains thread then settledFrom before after seen fuel others
    else match thread.fork? before after with
      | none => thread :: settledFrom before after (thread :: seen) fuel others
      | some threads => settledFrom before after (thread :: seen) fuel (threads ++ others)

/-- Takes threads as far as they go without a character. For every step of the pattern there are at
most two threads, each with two to follow it, so the fuel is enough. -/
def settled (p : Pattern) (before after : Option Char) (threads : List Thread) : List Thread :=
  settledFrom before after [] (16 * (p.size + 2)) threads

/-- Follows threads through a text. Does the occurrence that is found reach to its end? -/
def reachesEnd (p : Pattern) (before : Option Char) (threads : List Thread) : List Char → Bool
  -- some thread has nothing left to match, just as the text has not
  | [] => (settled p before none threads).contains []
  | c :: rest =>
    -- a thread that is done ends those behind it
    let going := (settled p before (some c) threads).takeWhile (· ≠ [])
    reachesEnd p (some c) (going.filterMap (Thread.advance? c)) rest

/-- **Does the first occurrence of the pattern reach to the end of the text?** -/
def findsEnd (p : Pattern) (text : List Char) : Bool :=
  reachesEnd p none [[.fromHere p]] text

end Pattern

end Netlist
