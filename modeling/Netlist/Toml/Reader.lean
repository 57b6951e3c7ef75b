/-!
# Reading a configuration text

A configuration text is read from front to back. A `Reader` takes one thing off the front and gives
it with the text that follows, or fails. This file has the characters that a text may hold, the
blanks between things, and the ends of lines.
-/

namespace Netlist.Toml

/-- Takes something off the front of a text: what it found, and what follows. -/
abbrev Reader (α : Type) := List Char → Option (α × List Char)

/-- Changes what a reader found. -/
def Reader.map {α β : Type} (f : α → β) (r : Reader α) : Reader β :=
  fun cs => (r cs).map fun x => (f x.1, x.2)

/-- The second of two readers has its turn when the first fails. -/
def Reader.orElse {α : Type} (r s : Reader α) : Reader α :=
  fun cs => match r cs with
    | some x => some x
    | none => s cs

/-! ### Characters -/

/-- A blank within a line. -/
def isBlank (c : Char) : Bool :=
  c == ' ' || c == '\t'

/-- A character that may stand within a line: anything but control characters, though a tab is
fine. -/
def isText (c : Char) : Bool :=
  c == '\t' || (32 ≤ c.toNat && c.toNat ≠ 127)

/-- A character of a key without quotes. -/
def isBareKey (c : Char) : Bool :=
  c.isAlphanum || c == '_' || c == '-'

/-! ### Blanks and lines -/

/-- The text after any blanks. -/
def skipBlanks (cs : List Char) : List Char :=
  cs.dropWhile isBlank

/-- The text after the end of a line; the text may end instead. -/
def afterNewline? : List Char → Option (List Char)
  | [] => some []
  | '\n' :: rest => some rest
  | '\r' :: '\n' :: rest => some rest
  | _ => none

/-- **The text after the rest of a line** that holds nothing but blanks and perhaps a comment. -/
def endOfLine? (cs : List Char) : Option (List Char) :=
  match skipBlanks cs with
  | '#' :: comment => afterNewline? (comment.dropWhile isText)
  | rest => afterNewline? rest

/-- The text after blanks, comments and ends of lines; `inComment` tells whether a comment is going
on. -/
def skipGapFrom (inComment : Bool) : List Char → List Char
  | [] => []
  | '\n' :: rest => skipGapFrom false rest
  | '\r' :: '\n' :: rest => skipGapFrom false rest
  | c :: rest =>
    -- within a comment, its own mark is text like any other
    if (inComment && isText c) || isBlank c then skipGapFrom inComment rest
    else if c == '#' then skipGapFrom true rest
    else c :: rest

/-- The text after blanks, comments and ends of lines. -/
def skipGap (cs : List Char) : List Char :=
  skipGapFrom false cs

end Netlist.Toml
