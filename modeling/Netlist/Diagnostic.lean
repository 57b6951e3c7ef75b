import Netlist.Json

/-!
# Diagnostics

A diagnostic tells one problem of a netlist or project: how severe it is, a stable code, a message,
the net, signal, instance or file it is about, and notes and help for the reader. Codes are a
category letter and a number of at least three digits, such as `E300`.
-/

namespace Netlist

/-- How severe a problem is. -/
inductive Severity where
  | note
  | warning
  | error
deriving DecidableEq, Repr

namespace Severity

/-- The severity in words. -/
def text : Severity → String
  | note => "note"
  | warning => "warning"
  | error => "error"

/-- The rank of a severity, the least severe first. -/
def rank : Severity → Nat
  | note => 0
  | warning => 1
  | error => 2

/-- Is it an error? -/
def isError (s : Severity) : Bool :=
  s == error

/-- Severities from the least to the most severe. -/
def sort (xs : List Severity) : List Severity :=
  xs.mergeSort fun a b => a.rank ≤ b.rank

/-- The most severe of a list. -/
def max? (xs : List Severity) : Option Severity :=
  -- sorted, so the last is the most severe
  (sort xs).getLast?

end Severity

/-- What a code is about. -/
inductive Category where
  | error
  | warning
deriving DecidableEq, Repr

/-- The letter that codes of a category start with. -/
def Category.letter : Category → String
  | error => "E"
  | warning => "W"

/-- The name of a category in stored form. -/
def Category.storedName : Category → String
  | error => "Error"
  | warning => "Warning"

/-- The stable code of a kind of problem. -/
structure DiagnosticCode where
  category : Category
  number : UInt16
deriving DecidableEq, Repr

namespace DiagnosticCode

/-- The number, filled up with zeros to three digits. -/
def numberText (n : Nat) : String :=
  let digits := toString n
  -- a number of four digits or five is written in full
  String.ofList (List.replicate (3 - digits.length) '0') ++ digits

/-- The code as it is written, such as `E300`. -/
def text (c : DiagnosticCode) : String :=
  c.category.letter ++ numberText c.number.toNat

end DiagnosticCode

/-- One problem of a netlist or project. -/
structure Diagnostic where
  severity : Severity
  code : DiagnosticCode
  message : String
  subject : Option String
  notes : List String
  help : List String
deriving DecidableEq, Repr

namespace Diagnostic

/-- A diagnostic with nothing but a message. -/
def plain (severity : Severity) (code : DiagnosticCode) (message : String) : Diagnostic :=
  { severity, code, message, subject := none, notes := [], help := [] }

/-- An error with nothing but a message; its code is in the category of errors. -/
def error (number : UInt16) (message : String) : Diagnostic :=
  plain .error ⟨.error, number⟩ message

/-- Says what the diagnostic is about. -/
def withSubject (d : Diagnostic) (subject : String) : Diagnostic :=
  { d with subject := some subject }

/-- Adds an explanation. -/
def withNote (d : Diagnostic) (note : String) : Diagnostic :=
  { d with notes := d.notes ++ [note] }

/-- Adds a suggestion. -/
def withHelp (d : Diagnostic) (text : String) : Diagnostic :=
  { d with help := d.help ++ [text] }

end Diagnostic

end Netlist
