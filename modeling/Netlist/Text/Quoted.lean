import Netlist.Text.Printable

/-!
# Quoted text

How a message shows a text that somebody else wrote: in quotes, with every character that would not
be visible, or would end the quotes, replaced by an escape.
-/

namespace Netlist.Text

/-- The characters whose escape is a single letter, with that letter. -/
def letterEscapes : List (Char × Char) :=
  [('\n', 'n'), ('\r', 'r'), ('\t', 't'), (Char.ofNat 0, '0'), ('\\', '\\'), ('"', '"')]

/-- The escape of a character by its number. -/
def numberEscape (c : Char) : List Char :=
  ['\\', 'u', '\x7b'] ++ Nat.toDigits 16 c.toNat ++ ['\x7d']

/-- How a character is shown between quotes. -/
def shown (c : Char) : List Char :=
  match letterEscapes.lookup c with
  | some letter => ['\\', letter]
  | none => if isPrintable c && !isExtending c then [c] else numberEscape c

/-- **A text in quotes.** -/
def quoted (s : String) : String :=
  String.ofList ('"' :: s.toList.flatMap shown ++ ['"'])

end Netlist.Text
