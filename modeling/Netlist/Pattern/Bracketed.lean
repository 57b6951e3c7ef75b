import Netlist.Pattern.Escape

/-!
# Bracketed sets

A set of characters is written between brackets: characters, ranges, named sets such as `[:alpha:]`
and other bracketed sets, one after the other. Within the brackets, `&&` keeps what is on both
sides, `--` takes the right side away from the left one, and `~~` keeps what is on one side alone;
they take everything to their left together. A circumflex at the beginning negates the set.
-/

namespace Netlist.Pattern

/-- How two sets are put together. -/
inductive SetOperator where
  | inter
  | diff
  | symmDiff
deriving DecidableEq, Repr

/-- Puts two sets together. -/
def SetOperator.apply : SetOperator → Text.Ranges → Text.Ranges → Text.Ranges
  | inter, s, t => s.inter t
  | diff, s, t => s.diff t
  | symmDiff, s, t => s.symmDiff t

/-- A set that has been read, and how deeply it was nested. -/
structure SetPiece where
  set : Text.Ranges
  depth : Nat
deriving DecidableEq, Repr

namespace SetPiece

/-- All that is written one after the other. -/
def union (items : List SetPiece) : SetPiece where
  set := items.foldl (fun acc item => acc.union item.set) []
  depth := match items with
    | [] => 0
    | [item] => item.depth
    | _ => (items.map (·.depth)).foldl max 0 + 1

/-- What is on the left of an operator, put together with what is on its right. -/
def combine? (f : Flags) (left : Option (SetOperator × SetPiece)) (right : SetPiece) :
    Option SetPiece :=
  match left with
  | none => some right
  | some (operator, left) => do
    -- if case does not matter, both cases are in a set before it is put together with another
    let s ← folded? f left.set
    let t ← folded? f right.set
    some ⟨operator.apply s t, max left.depth right.depth + 1⟩

end SetPiece

/-- Reads a named set after its bracket, such as `:alpha:]`. -/
def namedSet? (cs : List Char) : Option (Bool × Text.Ranges × List Char) :=
  match cs with
  | ':' :: rest =>
    let (negated, rest) := match rest with
      | '^' :: rest => (true, rest)
      | _ => (false, rest)
    let name := rest.takeWhile (· != ':')
    match rest.drop name.length, namedSets.lookup (String.ofList name) with
    | ':' :: ']' :: rest, some set => some (negated, set, rest)
    | _, _ => none
  | _ => none

/-- A character of a set or an escape. -/
def setItem? (f : Flags) : List Char → Option (Escape × List Char)
  | [] => none
  | '\\' :: rest => Escape.read? f rest
  | c :: rest => some (.literal c false, rest)

/-- The next character that counts, if one looks on from a minus sign. Of a comment there, the first
character counts. -/
def peek (f : Flags) (cs : List Char) : Option Char :=
  if f.verbose then
    match cs.dropWhile Text.isWhite with
    | '#' :: rest => (rest.dropWhile Text.isWhite).head?
    | rest => rest.head?
  else cs.head?

/-- Reads a character, a shorthand or a range. A minus sign before a bracket or before another minus
sign makes no range. -/
def setRange? (f : Flags) (cs : List Char) : Option (Text.Ranges × List Char) := do
  let (first, rest) ← setItem? f cs
  match skip f rest with
  | [] => none
  | '-' :: after =>
    -- the minus sign is the last character of the set, or the first one of an operator
    if peek f after == some ']' || peek f after == some '-' then
      single? first ('-' :: after)
    else
      let (second, rest) ← setItem? f (skip f after)
      match first, second with
      | .literal a _, .literal b _ =>
        if b < a then none
        else
          let lo ← setMember? f a
          let hi ← setMember? f b
          some ([(lo, hi)], rest)
      | _, _ => none
  | rest => single? first rest
where
  single? (item : Escape) (rest : List Char) : Option (Text.Ranges × List Char) :=
    match item with
    | .literal c _ => (setMember? f c).map fun n => ([(n, n)], rest)
    | .shorthand set negated => (shorthandMeant? f set negated).map fun set => (set, rest)
    | .look _ => none

/-- Reads the rest of a set up to its bracket. Before that come the left side of an operator, if
there is one, and the items of the right side so far; while the set is only opening, a minus sign
stands for itself, and so does a bracket that is the very first. The fuel bounds the characters. -/
def setRest? (f : Flags) : Nat → Option (SetOperator × SetPiece) → List SetPiece → Bool →
    List Char → Option (SetPiece × List Char)
  | 0, _, _, _, _ => none
  | fuel + 1, left, items, opening, cs =>
    let cs := skip f cs
    let operated (operator : SetOperator) (rest : List Char) :
        Option (SetPiece × List Char) := do
      let done ← SetPiece.combine? f left (.union items)
      setRest? f fuel (some (operator, done)) [] false rest
    let item (set : Text.Ranges) (opening : Bool) (rest : List Char) :
        Option (SetPiece × List Char) :=
      setRest? f fuel left (items ++ [⟨set, 0⟩]) opening rest
    match cs with
    | [] => none
    | c :: rest =>
      if opening && c == '-' then item [between '-' '-'] true rest
      -- an empty set cannot be written, so this bracket closes nothing
      else if opening && c == ']' && items.isEmpty then item [between ']' ']'] false rest
      else match c, rest with
        | '[', rest =>
          match namedSet? rest with
          | some (negated, set, rest) => do
            let set ← negated? f negated set
            item set false rest
          | none => do
            let (negated, rest) := circumflex f rest
            let (piece, rest) ← setRest? f fuel none [] true rest
            let set ← (folded? f piece.set).bind (negated? f negated)
            setRest? f fuel left (items ++ [⟨set, piece.depth + 1⟩]) false rest
        | ']', rest => do
          let done ← SetPiece.combine? f left (.union items)
          some (done, rest)
        | '&', '&' :: rest => operated .inter rest
        | '-', '-' :: rest => operated .diff rest
        | '~', '~' :: rest => operated .symmDiff rest
        | _, _ => do
          let (set, rest) ← setRange? f cs
          item set false rest
where
  circumflex (f : Flags) (rest : List Char) : Bool × List Char :=
    match skip f rest with
    | '^' :: rest => (true, rest)
    | rest => (false, rest)

/-- **Reads a bracketed set** after its bracket. -/
def bracketed? (f : Flags) (cs : List Char) : Option (SetPiece × List Char) := do
  let (negated, rest) := setRest?.circumflex f cs
  let (piece, rest) ← setRest? f (rest.length + 1) none [] true rest
  let set ← (folded? f piece.set).bind (negated? f negated)
  some (⟨set, piece.depth + 1⟩, rest)

end Netlist.Pattern
