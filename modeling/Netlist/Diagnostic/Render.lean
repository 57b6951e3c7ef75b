import Netlist.Diagnostic

/-!
# Diagnostics on a terminal

A diagnostic is written as a headline with severity, code and message, then a line for its subject,
one for each note and one for each help text. On a terminal with colours the severity and code are
painted; `Diagnostic.render` does both.
-/

namespace Netlist

/-- The escape character that starts a colour sequence. -/
def escapeText : String := "\x1b"

/-- The sequence that switches the colour of a severity on. -/
def Severity.paint : Severity → String
  | error => escapeText ++ "[1;31m"
  | warning => escapeText ++ "[1;33m"
  | note => escapeText ++ "[1;36m"

/-- The sequence that switches colours off. -/
def paintReset : String := escapeText ++ "[0m"

namespace Diagnostic

/-- Severity and code. -/
def headline (d : Diagnostic) : String :=
  d.severity.text ++ "[" ++ d.code.text ++ "]"

/-- Severity and code, painted if colours are on. -/
def paintedHeadline (colour : Bool) (d : Diagnostic) : String :=
  if colour then d.severity.paint ++ d.headline ++ paintReset else d.headline

/-- The lines that follow the headline. -/
def details (d : Diagnostic) : List String :=
  (match d.subject with
    | some subject => ["  --> " ++ subject]
    | none => []) ++
  d.notes.map ("   = note: " ++ ·) ++ d.help.map ("   = help: " ++ ·)

/-- **The diagnostic as lines of text**, each ended by a line break. -/
def render (colour : Bool) (d : Diagnostic) : String :=
  -- a line break inside of a text is not looked for
  String.join (((d.paintedHeadline colour ++ ": " ++ d.message) :: d.details).map (· ++ "\n"))

end Diagnostic

end Netlist
