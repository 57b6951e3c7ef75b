import Netlist.Toml.Reader

/-!
# Texts in quotes

A text stands in double quotes, where a backslash starts an escape, or in single quotes, where every
character stands for itself. Three quotes instead of one open a text that may go over several
lines.
-/

namespace Netlist.Toml

/-- A single quote. -/
def singleQuote : Char := Char.ofNat 39

/-- How far an escape has been read. -/
inductive EscapeState where
  /-- There is no escape going on. `trimming` tells that the end of the line has been escaped, so
  that blanks and ends of lines do not count until something else comes. -/
  | plain (trimming : Bool)
  | backslash
  | lineEnd
  /-- So many digits of a character's number are still to come after those in `value`. -/
  | number (digits value : Nat)
deriving DecidableEq, Repr

/-- The character that a letter stands for after a backslash. -/
def escapedLetter? (c : Char) : Option Char :=
  [('b', Char.ofNat 8), ('t', '\t'), ('n', '\n'), ('f', Char.ofNat 12), ('r', '\r'), ('"', '"'),
    ('\\', '\\')].lookup c

/-- The value of a hexadecimal digit. -/
def hexValue? (c : Char) : Option Nat :=
  if c.isDigit then some (c.toNat - '0'.toNat)
  else if 'a' ≤ c && c ≤ 'f' then some (c.toNat - 'a'.toNat + 10)
  else if 'A' ≤ c && c ≤ 'F' then some (c.toNat - 'A'.toNat + 10)
  else none

/-- The character with a number, if there is one. -/
def charOfNumber? (n : Nat) : Option Char :=
  if n.isValidChar then some (Char.ofNat n) else none

/-- Puts a character in front of what a reader found. -/
def consFound (c : Char) : Option (List Char × List Char) → Option (List Char × List Char) :=
  Option.map fun x => (c :: x.1, x.2)

/-- What an escape does once one more character of it has been read: it gives a character, or goes
on. -/
inductive EscapeStep where
  | gives (c : Char)
  | goesOn (state : EscapeState)

/-- Reads one more character of an escape. Only a text over several lines can escape the end of a
line. -/
def escapeStep? (multiline : Bool) : EscapeState → Char → Option EscapeStep
  | .plain _, _ => none
  | .backslash, c =>
    match escapedLetter? c with
    | some d => some (.gives d)
    | none =>
      if c == 'u' then some (.goesOn (.number 4 0))
      else if c == 'U' then some (.goesOn (.number 8 0))
      else if multiline && isBlank c then some (.goesOn .lineEnd)
      else if multiline && c == '\n' then some (.goesOn (.plain true))
      else none
  | .lineEnd, c =>
    if isBlank c then some (.goesOn .lineEnd)
    else if c == '\n' then some (.goesOn (.plain true))
    else none
  | .number digits value, c => do
    let value := value * 16 + (← hexValue? c)
    -- the last digit completes the number
    if digits ≤ 1 then return .gives (← charOfNumber? value)
    else return .goesOn (.number (digits - 1) value)

/-! ### Texts within a line -/

/-- The text up to a closing double quote. -/
def basicFrom : EscapeState → Reader (List Char)
  | _, [] => none
  | .plain _, '"' :: rest => some ([], rest)
  | .plain _, '\\' :: rest => basicFrom .backslash rest
  | .plain _, c :: rest => if isText c then consFound c (basicFrom (.plain false) rest) else none
  | state, c :: rest =>
    match escapeStep? false state c with
    | none => none
    | some (.gives d) => consFound d (basicFrom (.plain false) rest)
    | some (.goesOn state') => basicFrom state' rest

/-- The text up to a closing single quote. -/
def literalBody : Reader (List Char)
  | [] => none
  | c :: rest =>
    if c == singleQuote then some ([], rest)
    else if isText c then consFound c (literalBody rest)
    else none

/-! ### Texts over several lines -/

/-- A text is closed by three quotes. Up to two more quotes right before them belong to the text. -/
def closing (quote : Char) : List Char → List Char × List Char
  | a :: b :: rest =>
    if a == quote && b == quote then ([a, b], rest)
    else if a == quote then ([a], b :: rest)
    else ([], a :: b :: rest)
  | [a] => if a == quote then ([a], []) else ([], [a])
  | [] => ([], [])

/-- The text up to three closing double quotes. A line may end as it likes; the text has the same
end of line everywhere. -/
def longBasicFrom : EscapeState → Reader (List Char)
  | _, [] => none
  -- one or two quotes belong to the text, so three are looked for first
  | .plain _, '"' :: '"' :: '"' :: rest => some (closing '"' rest)
  | .plain trimming, '\r' :: '\n' :: rest =>
    if trimming then longBasicFrom (.plain true) rest
    else consFound '\n' (longBasicFrom (.plain false) rest)
  | .plain _, '\\' :: rest => longBasicFrom .backslash rest
  | .plain trimming, c :: rest =>
    if trimming && (isBlank c || c == '\n') then longBasicFrom (.plain true) rest
    else if isText c || c == '\n' then consFound c (longBasicFrom (.plain false) rest)
    else none
  -- an escaped end of line may have two characters
  | .backslash, '\r' :: '\n' :: rest => longBasicFrom (.plain true) rest
  | .lineEnd, '\r' :: '\n' :: rest => longBasicFrom (.plain true) rest
  | state, c :: rest =>
    match escapeStep? true state c with
    | none => none
    | some (.gives d) => consFound d (longBasicFrom (.plain false) rest)
    | some (.goesOn state') => longBasicFrom state' rest

/-- The text up to three closing single quotes. -/
def longLiteralBody : Reader (List Char)
  | [] => none
  | '\r' :: '\n' :: rest => consFound '\n' (longLiteralBody rest)
  | a :: rest =>
    if a == singleQuote && rest.take 2 == [singleQuote, singleQuote] then
      some (closing singleQuote (rest.drop 2))
    else if isText a || a == '\n' then consFound a (longLiteralBody rest)
    else none

/-- The first line of a text over several lines does not count if nothing is in it. -/
def skipFirstNewline : List Char → List Char
  | '\n' :: rest => rest
  | '\r' :: '\n' :: rest => rest
  | cs => cs

/-! ### Readers -/

/-- A text in single or double quotes within a line. -/
def shortString? : Reader String
  | '"' :: rest => (basicFrom (.plain false)).map String.ofList rest
  | c :: rest => if c == singleQuote then literalBody.map String.ofList rest else none
  | [] => none

/-- Three quotes in a row. -/
def tripled (quote : Char) : List Char := [quote, quote, quote]

/-- **A text in quotes.** -/
def string? : Reader String := fun cs =>
  if cs.take 3 == tripled '"' then
    (longBasicFrom (.plain false)).map String.ofList (skipFirstNewline (cs.drop 3))
  else if cs.take 3 == tripled singleQuote then
    longLiteralBody.map String.ofList (skipFirstNewline (cs.drop 3))
  else shortString? cs

end Netlist.Toml
