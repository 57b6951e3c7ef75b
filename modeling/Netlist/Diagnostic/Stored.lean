import Netlist.Diagnostic

/-!
# Stored diagnostics

Diagnostics as JSON. A subject that is absent, and notes and help that are empty, are left out when
a diagnostic is written; when it is read, whatever was left out is restored.
-/

namespace Netlist

/-- Reads a severity. -/
def Severity.ofJson? (x : Json) : Option Severity := do
  match ← x.asAlternative? with
  | "note" => some .note
  | "warning" => some .warning
  | "error" => some .error
  | _ => none

/-- The stored form of a severity. -/
def Severity.toJson (s : Severity) : Json :=
  .string s.text

/-- Reads a category. -/
def Category.ofJson? (x : Json) : Option Category := do
  match ← x.asAlternative? with
  | "Error" => some .error
  | "Warning" => some .warning
  | _ => none

/-- The stored form of a category. -/
def Category.toJson (c : Category) : Json :=
  .string c.storedName

namespace DiagnosticCode

/-- The stored form of a code. -/
def toJson (c : DiagnosticCode) : Json :=
  .object [("category", c.category.toJson), ("number", .nat c.number.toNat)]

/-- Reads a 16-bit number. -/
def numberOfJson? (x : Json) : Option UInt16 :=
  (x.asNatBelow? UInt16.size).map UInt16.ofNat

/-- Reads a code. -/
def ofJson? (x : Json) : Option DiagnosticCode := do
  let category ← x.field? "category" 2 0 (.required Category.ofJson?)
  let number ← x.field? "number" 2 1 (.required numberOfJson?)
  return { category, number }

end DiagnosticCode

namespace Diagnostic

/-- A member for a list, unless the list is empty. -/
def listMember (name : String) (xs : List String) : List (String × Json) :=
  match xs with
  | [] => []
  | _ => [(name, .strings xs)]

/-- **The stored form of a diagnostic.** -/
def toJson (d : Diagnostic) : Json :=
  .object ([("severity", d.severity.toJson), ("code", d.code.toJson),
      ("message", .string d.message)] ++
    (match d.subject with
      | some subject => [("subject", .string subject)]
      | none => []) ++
    listMember "notes" d.notes ++ listMember "help" d.help)

/-- **Reads a stored diagnostic.** The subject may be absent or null, notes and help may be
absent. -/
def ofJson? (x : Json) : Option Diagnostic := do
  let severity ← x.field? "severity" 6 0 (.required Severity.ofJson?)
  let code ← x.field? "code" 6 1 (.required DiagnosticCode.ofJson?)
  let message ← x.field? "message" 6 2 (.required Json.asString?)
  -- the others may be left out
  let subject ← x.field? "subject" 6 3 .optionalString
  let notes ← x.field? "notes" 6 4 (.withDefault [] (Json.asListOf? Json.asString?))
  let help ← x.field? "help" 6 5 (.withDefault [] (Json.asListOf? Json.asString?))
  return { severity, code, message, subject, notes, help }

end Diagnostic

end Netlist
