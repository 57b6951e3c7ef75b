import Netlist.Chip.Summary
import Netlist.Command.Build
import Netlist.CommandLine.Invocation
import Netlist.Diagnostic.Stored

/-!
# Checking

A check builds the chip of a project and reports everything that is wrong, incomplete nets
included, for people or for programs. Nothing is written.
-/

namespace Netlist.Command

/-- The report for programs. -/
def checkReport (a : Assembled) : Json :=
  .object [("errors", .nat a.sink.errorCount), ("warnings", .nat a.sink.warningCount),
    ("diagnostics", .array (a.sink.held.map Diagnostic.toJson)),
    ("chip", a.chip.elim .null fun c => c.summary.toJson)]

/-- Adds what a chip lacks to what is wrong with its project. -/
def validated (a : Assembled) : Assembled :=
  { a with sink := withViolations a.sink (a.chip.elim [] Chip.violations) }

/-- Prints what is wrong with a project. -/
def printCheck (s : Settings) (format : ReportFormat) (a : Assembled) : Action Unit :=
  match format with
  | .text => do
    printDiagnostics s a.sink.held
    say s s!"   Result: {a.sink.errorCount} error(s), {a.sink.warningCount} warning(s)"
  | .json => Action.printOut ((checkReport a).render ++ "\n")

/-- **Checks the project.** -/
def check (s : Settings) (format : ReportFormat) : Action Outcome := do
  match ← loadProject s.config with
  | .error e => return .error e
  | .ok (root, m) =>
    -- programs are told nothing but the report
    if format = .text then say s s!"   Checking {m.project.name}"
    let assembled ← assemble root m
    -- an incomplete chip is checked even if there have been errors
    Action.log (assembled.chip.elim [] Chip.violationEvents)
    let checked := validated assembled
    printCheck s format checked
    return .ok (if checked.sink.hasErrors then 1 else 0)

end Netlist.Command
