import Netlist.Text.Ranges

/-!
# Patterns

A pattern describes texts: characters and sets of characters, one after the other, as alternatives,
or repeated. Alternatives and repetitions have an order of preference, which decides which of the
texts at a place the pattern takes. The functions below build patterns in a settled form: nothing is
nested that could be flat, neighbouring characters are one text, and alternatives that begin alike
share their beginning.
-/

namespace Netlist

/-- A condition on the place between two characters. -/
inductive Look where
  | textStart
  | textEnd
  | lineStart
  | lineEnd
  /-- A line begins here, where a carriage return may end lines, too. -/
  | returnLineStart
  /-- A line ends here, where a carriage return may end lines, too. -/
  | returnLineEnd
  | wordEdge
  | noWordEdge
  | wordStart
  | wordEnd
deriving DecidableEq, Repr

namespace Look

/-- Is there a character that words consist of? Words are ASCII here. -/
def isInWord (c : Option Char) : Bool :=
  c.any fun c => c.isAlphanum || c == '_'

/-- Does the condition hold between two characters? A side without a character is an end of the
text. -/
def holds (before after : Option Char) : Look → Bool
  | textStart => before.isNone
  | textEnd => after.isNone
  | lineStart => before.all (· == '\n')
  | lineEnd => after.all (· == '\n')
  | returnLineStart => before.all fun c => c == '\n' || (c == '\r' && after != some '\n')
  | returnLineEnd => after.all fun c => c == '\r' || (c == '\n' && before != some '\r')
  | wordEdge => isInWord before != isInWord after
  | noWordEdge => isInWord before == isInWord after
  | wordStart => !isInWord before && isInWord after
  | wordEnd => isInWord before && !isInWord after

end Look

/-- A description of texts. -/
inductive Pattern where
  | empty
  | text (cs : List Char)
  | oneOf (set : Text.Ranges)
  | look (l : Look)
  | seq (first second : Pattern)
  | either (first second : Pattern)
  /-- Perhaps; preferably so if it is greedy, and preferably not otherwise. -/
  | optional (p : Pattern) (greedy : Bool)
  /-- Once or more: as often as possible if it is greedy, and as rarely otherwise. -/
  | many (p : Pattern) (greedy : Bool)
  /-- Any number of times: as often as possible if it is greedy, and as rarely otherwise. -/
  | star (p : Pattern) (greedy : Bool)
  | group (number : Nat) (p : Pattern)
deriving DecidableEq, Repr

namespace Pattern

/-- How many steps a pattern has. -/
def size : Pattern → Nat
  | empty => 1
  | text cs => cs.length + 1
  | oneOf _ => 1
  | look _ => 1
  | seq p q => p.size + q.size + 1
  | either p q => p.size + q.size + 1
  | optional p _ => p.size + 1
  | many p _ => p.size + 1
  | star p _ => p.size + 1
  | group _ p => p.size + 1

/-! ### One after the other -/

/-- The parts that follow each other in a pattern. -/
def parts : Pattern → List Pattern
  | empty => []
  | seq p q => p :: q.parts
  | p => [p]

/-- Makes one text of neighbouring texts. -/
def joinTexts : List Pattern → List Pattern
  | [] => []
  | p :: rest =>
    match p, joinTexts rest with
    -- the rest has been joined already, so one neighbour is enough
    | text a, text b :: others => text (a ++ b) :: others
    | p, others => p :: others

/-- The pattern with the given parts. -/
def ofParts : List Pattern → Pattern
  | [] => empty
  | [p] => p
  | p :: rest => seq p (ofParts rest)

/-- Patterns one after the other. -/
def inSequence (ps : List Pattern) : Pattern :=
  ofParts (joinTexts (ps.flatMap parts))

/-! ### One of several -/

/-- The alternatives of a pattern. -/
def branches : Pattern → List Pattern
  | either p q => p :: q.branches
  | p => [p]

/-- One character of a set; of a single one, it is that text. -/
def ofSet (set : Text.Ranges) : Pattern :=
  match set with
  | [(a, b)] => if a = b then text [Char.ofNat a] else oneOf set
  | _ => oneOf set

/-- The set of characters that a pattern describes, if it does describe single characters. -/
def charSet? : Pattern → Option Text.Ranges
  | text [c] => some [(c.toNat, c.toNat)]
  | oneOf set => some set
  | _ => none

/-- The pattern with the given alternatives. -/
def ofBranches : List Pattern → Pattern
  | [] => oneOf []
  | [p] => p
  | p :: rest => either p (ofBranches rest)

/-- Alternatives that share no beginning. Single characters become one set. -/
def anyOf (ps : List Pattern) : Pattern :=
  let flat := ps.flatMap branches
  match flat with
  | [p] => p
  | _ =>
    match flat.mapM charSet? with
    | some sets => ofSet (sets.foldl Text.Ranges.union [])
    | none => ofBranches flat

/-- The common beginning of two lists. -/
def commonStart : List Pattern → List Pattern → List Pattern
  | p :: ps, q :: qs => if p = q then p :: commonStart ps qs else []
  | _, _ => []

/-- **One of several patterns, preferably an earlier one.** If all are sequences that begin alike,
the beginning comes first and is the same for all. -/
def oneOfSeveral (ps : List Pattern) : Pattern :=
  let flat := ps.flatMap branches
  match flat, flat.mapM charSet? with
  | first :: second :: others, none =>
    let rest := second :: others
    -- a pattern that is not a sequence shares no beginning with another
    if (first :: rest).all fun p => 1 < p.parts.length then
      let start := rest.foldl (fun start p => commonStart start p.parts) first.parts
      if start.isEmpty then anyOf flat
      else
        let ends := (first :: rest).map fun p => inSequence (p.parts.drop start.length)
        inSequence (start ++ [anyOf ends])
    else anyOf flat
  | _, _ => anyOf flat

end Pattern

end Netlist
