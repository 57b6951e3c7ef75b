import Netlist.Pattern.Bracketed
import Netlist.Text.Letter

/-!
# Reading patterns

A pattern is written as characters that stand for themselves, dots, escapes, bracketed sets,
conditions, groups, alternatives with a bar between them, and marks of repetition behind what is to
be repeated. `Pattern.ofChars?` reads a pattern as a whole and refuses whatever it does not
understand. Counted repetitions are among that: they are written in braces, which cannot stand in
the places that patterns are read from.
-/

namespace Netlist.Pattern

/-- A part of a pattern that has been read. -/
structure Piece where
  pattern : Pattern
  depth : Nat
  /-- Can it be repeated? A change of flags cannot. -/
  repeatable : Bool
deriving DecidableEq, Repr

namespace Piece

/-- How deep several parts are together: a single one counts as itself. -/
def depthOf (pieces : List Piece) : Nat :=
  match pieces with
  | [] => 0
  | [piece] => piece.depth
  | _ => (pieces.map (·.depth)).foldl max 0 + 1

/-- Parts one after the other. -/
def inSequence (pieces : List Piece) : Piece where
  pattern := Pattern.inSequence (pieces.map (·.pattern))
  depth := depthOf pieces
  repeatable := true

/-- One of several parts. -/
def oneOfSeveral (pieces : List Piece) : Piece where
  pattern := Pattern.oneOfSeveral (pieces.map (·.pattern))
  depth := depthOf pieces
  repeatable := true

/-- A part that is not nested. -/
def flat (p : Pattern) : Piece := ⟨p, 0, true⟩

/-- A change of flags. -/
def flagChange : Piece := ⟨.empty, 0, false⟩

end Piece

/-! ### Single parts -/

/-- What a dot stands for. Without `unicode` it could match a part of a character. -/
def dotMeant? (f : Flags) : Option Pattern :=
  let excluded : Text.Ranges :=
    if f.dotAll then []
    else if f.returns then [between '\n' '\n', between '\r' '\r']
    else [between '\n' '\n']
  if f.unicode then some (.oneOf excluded.complement) else none

/-- What a circumflex stands for. -/
def startMeant (f : Flags) : Look :=
  if !f.multiLine then .textStart else if f.returns then .returnLineStart else .lineStart

/-- What a dollar sign stands for. -/
def endMeant (f : Flags) : Look :=
  if !f.multiLine then .textEnd else if f.returns then .returnLineEnd else .lineEnd

/-- What an escape stands for. -/
def escapeMeant? (f : Flags) : Escape → Option Pattern
  | .literal c isByte => literalMeant? f c isByte
  | .shorthand set negated => (shorthandMeant? f set negated).map .ofSet
  | .look l => (lookMeant? f l).map .look

/-- Repeats the last of some parts as a mark says. A question mark behind the mark makes it less
greedy. -/
def repeated? (f : Flags) (mark : Char) (items : List Piece) (rest : List Char) :
    Option (List Piece × List Char) := do
  let last ← items.getLast?
  let (lazily, rest) := match rest with
    | '?' :: rest => (true, rest)
    | _ => (false, rest)
  let greedy := lazily == f.swapGreed
  let pattern := match mark with
    | '?' => Pattern.optional last.pattern greedy
    | '+' => Pattern.many last.pattern greedy
    | _ => Pattern.star last.pattern greedy
  if last.repeatable then some (items.dropLast ++ [⟨pattern, last.depth + 1, true⟩], rest)
  else none

/-! ### Groups -/

/-- What has been met in a pattern so far. -/
structure Met where
  names : List String
  groups : Nat
deriving DecidableEq, Repr

/-- How a group begins. -/
inductive Opening where
  /-- It is a change of flags for the rest of the group around it. -/
  | change (flags : Flags)
  | plain (flags : Flags)
  | numbered
deriving DecidableEq, Repr

/-- Can the name of a group be this? It begins with a letter or an underscore; after that, numbers,
dots and brackets can follow. -/
def isGroupName : List Char → Bool
  | [] => false
  | c :: rest =>
    (c == '_' || Text.isLetter c) && rest.all fun c =>
      c == '_' || c == '.' || c == '[' || c == ']' || Text.isLetterOrNumber c

/-- Reads the name of a group up to its closing angle. -/
def groupName? (met : Met) (cs : List Char) : Option (Opening × Met × List Char) :=
  let name := cs.takeWhile (· != '>')
  match cs.drop name.length with
  | [] => none
  | _ :: rest =>
    if isGroupName name && !met.names.contains (String.ofList name) then
      some (.numbered, ⟨String.ofList name :: met.names, met.groups + 1⟩, rest)
    else none

/-- Reads how a group begins, after its parenthesis. Looking ahead or behind is refused. -/
def opening? (f : Flags) (met : Met) (cs : List Char) : Option (Opening × Met × List Char) :=
  match cs with
  | '?' :: '=' :: _ | '?' :: '!' :: _ | '?' :: '<' :: '=' :: _ | '?' :: '<' :: '!' :: _ => none
  | '?' :: 'P' :: '<' :: rest => groupName? met rest
  | '?' :: '<' :: rest => groupName? met rest
  | '?' :: rest => do
    let change := rest.takeWhile fun c => c != ':' && c != ')'
    let flags ← f.changed? change
    match rest.drop change.length with
    | [] => none
    | ':' :: rest => some (.plain flags, met, rest)
    | _ :: rest => if change.isEmpty then none else some (.change flags, met, rest)
  | cs => some (.numbered, { met with groups := met.groups + 1 }, cs)

/-! ### Whole patterns -/

/-- Reads alternatives up to the end of their group, which stays in the rest, or to the end of the
pattern. Given are the alternatives that are complete and the parts of the one that is not. The fuel
bounds the characters. -/
def alternatives? : Nat → Flags → Met → List Piece → List Piece → List Char →
    Option (Piece × Met × List Char)
  | 0, _, _, _, _, _ => none
  | fuel + 1, f, met, branches, items, cs =>
    let cs := skip f cs
    let goOn (piece : Option Piece) (rest : List Char) : Option (Piece × Met × List Char) := do
      alternatives? fuel f met branches (items ++ [← piece]) rest
    let done : Piece := .oneOfSeveral (branches ++ [.inSequence items])
    match cs with
    | [] => some (done, met, [])
    | ')' :: _ => some (done, met, cs)
    | '|' :: rest => alternatives? fuel f met (branches ++ [.inSequence items]) [] rest
    | '(' :: rest => do
      let (opening, inner, rest) ← opening? f met (skip f rest)
      -- a group may change flags, but only for itself
      let group (flags : Flags) : Option (Piece × Met × List Char) := do
        match ← alternatives? fuel flags inner [] [] rest with
        | (piece, after, ')' :: rest) => some (piece, after, rest)
        | _ => none
      match opening with
      | .change flags => alternatives? fuel flags inner branches (items ++ [.flagChange]) rest
      | .plain flags => do
        let (piece, after, rest) ← group flags
        alternatives? fuel f after branches (items ++ [⟨piece.pattern, piece.depth + 1, true⟩]) rest
      | .numbered => do
        let (piece, after, rest) ← group f
        let numbered := Pattern.group inner.groups piece.pattern
        alternatives? fuel f after branches (items ++ [⟨numbered, piece.depth + 1, true⟩]) rest
    | '[' :: rest => do
      let (piece, rest) ← bracketed? f rest
      goOn (some ⟨.ofSet piece.set, piece.depth, true⟩) rest
    | '?' :: rest | '*' :: rest | '+' :: rest => do
      let (items, rest) ← repeated? f (cs.headD '*') items rest
      alternatives? fuel f met branches items rest
    | '\x7b' :: _ => none
    | '\\' :: rest => do
      let (escape, rest) ← Escape.read? f rest
      goOn ((escapeMeant? f escape).map .flat) rest
    | '.' :: rest => goOn ((dotMeant? f).map .flat) rest
    | '^' :: rest => goOn (some (.flat (.look (startMeant f)))) rest
    | '$' :: rest => goOn (some (.flat (.look (endMeant f)))) rest
    | c :: rest => goOn ((literalMeant? f c false).map .flat) rest

/-- How deeply a pattern can be nested. -/
def depthLimit : Nat := 250

/-- **Reads a pattern.** -/
def ofChars? (cs : List Char) : Option Pattern :=
  match alternatives? (cs.length + 1) .usual ⟨[], 0⟩ [] [] cs with
  | some (piece, _, []) => if piece.depth ≤ depthLimit then some piece.pattern else none
  | _ => none

end Netlist.Pattern
