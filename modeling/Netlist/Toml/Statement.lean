import Netlist.Toml.Dates
import Netlist.Toml.Draft
import Netlist.Toml.Strings

/-!
# Statements

A configuration text is a list of statements, one a line: a key with its value, the header of a
table, or the header of an element in a list of tables. Values in brackets or braces hold further
values, down to a fixed depth.
-/

namespace Netlist.Toml

/-- What a line of a configuration text states. -/
inductive Statement where
  | keyValue (key : KeyPath) (v : Value)
  | table (key : KeyPath)
  | element (key : KeyPath)

/-- Brackets and braces go no deeper, and dotted keys are no longer. -/
def depthLimit : Nat := 79

/-! ### Keys -/

/-- A key without quotes. -/
def bareKey? : Reader String := fun cs =>
  match cs.takeWhile isBareKey with
  | [] => none
  | key => some (String.ofList key, cs.dropWhile isBareKey)

/-- One part of a dotted key. -/
def simpleKey? : Reader String :=
  shortString?.orElse bareKey?

/-- The parts of a dotted key, at most `count` of them. -/
def keyParts? : (count : Nat) → Reader (List String)
  | 0, _ => none
  | count + 1, cs => do
    let (key, rest) ← simpleKey? (skipBlanks cs)
    match skipBlanks rest with
    | '.' :: rest => (keyParts? count).map (key :: ·) rest
    | rest => return ([key], rest)

/-- A dotted key, with the blanks around it. -/
def keyPath? : Reader KeyPath := fun cs => do
  let (parts, rest) ← keyParts? depthLimit cs
  return (⟨parts.dropLast, ← parts.getLast?⟩, rest)

/-- A key and its value, read by the given reader. -/
def keyValue? (value : Reader Value) : Reader (KeyPath × Value) := fun cs => do
  let (key, rest) ← keyPath? cs
  match rest with
  | '=' :: rest => (value.map (key, ·)) (skipBlanks rest)
  | _ => none

/-! ### Values -/

/-- A value without parts. -/
def scalar? : Reader Value
  | 't' :: 'r' :: 'u' :: 'e' :: rest => some (.boolean true, rest)
  | 'f' :: 'a' :: 'l' :: 's' :: 'e' :: rest => some (.boolean false, rest)
  | cs =>
    -- dates are tried before numbers, because they start like numbers
    (string?.map Value.string).orElse
      ((datetime?.map Value.datetime).orElse
        ((float?.map Value.float).orElse (integer?.map Value.integer))) cs

/-- The items of a list, up to the closing bracket. Blanks, comments and ends of lines may stand
between them, and a comma after the last. -/
def arrayItems? (value : Reader Value) : (fuel : Nat) → Reader (List Value)
  | 0, _ => none
  | fuel + 1, cs =>
    match skipGap cs with
    -- here a list ends that is empty, or that has a comma after its last item
    | ']' :: rest => some ([], rest)
    | cs => do
      let (v, rest) ← value cs
      match skipGap rest with
      | ',' :: rest => (arrayItems? value fuel).map (v :: ·) rest
      | ']' :: rest => return ([v], rest)
      | _ => none

/-- The keys of an inline table after the first, up to the closing brace. -/
def moreEntries? (value : Reader Value) : (fuel : Nat) → Reader (List (KeyPath × Value))
  | 0, _ => none
  | fuel + 1, cs => do
    let (entry, rest) ← keyValue? value cs
    match skipBlanks rest with
    | ',' :: rest => (moreEntries? value fuel).map (entry :: ·) rest
    | '\x7d' :: rest => return ([entry], rest)
    | _ => none

/-- The keys of an inline table. -/
def inlineEntries? (value : Reader Value) : Reader (List (KeyPath × Value)) := fun cs =>
  match skipBlanks cs with
  | '\x7d' :: rest => some ([], rest)
  | _ => moreEntries? value (cs.length + 1) cs

/-- An inline table after its opening brace. -/
def inlineTable? (value : Reader Value) : Reader Value := fun cs => do
  let (entries, rest) ← inlineEntries? value cs
  return (.table (← Items.setAll? entries []).toTable, rest)

/-- A value in which brackets and braces go no deeper than `depth`. -/
def valueWithin? : (depth : Nat) → Reader Value
  | 0, cs => scalar? cs
  | depth + 1, cs =>
    match cs with
    | '[' :: rest => (arrayItems? (valueWithin? depth) (rest.length + 1)).map Value.array rest
    | '\x7b' :: rest => inlineTable? (valueWithin? depth) rest
    | cs => scalar? cs

/-- **A value.** -/
def value? : Reader Value :=
  valueWithin? depthLimit

/-! ### Lines -/

/-- A header after its opening bracket. -/
def header? : Reader Statement
  | '[' :: cs => do
    let (key, rest) ← keyPath? cs
    match rest with
    | ']' :: ']' :: rest => return (.element key, rest)
    | _ => none
  | cs => do
    let (key, rest) ← keyPath? cs
    match rest with
    | ']' :: rest => return (.table key, rest)
    | _ => none

/-- **A statement.** -/
def statement? : Reader Statement
  | '[' :: rest => header? rest
  | cs => (keyValue? value?).map (fun x => .keyValue x.1 x.2) cs

/-- The statements of a text; `fuel` bounds the number of its lines. -/
def statementsWithin? : (fuel : Nat) → List Char → Option (List Statement)
  | _, [] => some []
  | 0, _ :: _ => none
  | fuel + 1, cs =>
    match endOfLine? cs with
    -- the line states nothing
    | some rest => statementsWithin? fuel rest
    | none => do
      let (s, rest) ← statement? (skipBlanks cs)
      return s :: (← statementsWithin? fuel (← endOfLine? rest))

/-- **The statements of a text.** -/
def statements? (cs : List Char) : Option (List Statement) :=
  statementsWithin? cs.length cs

end Netlist.Toml
