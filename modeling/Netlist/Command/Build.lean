import Netlist.Command.Locate
import Netlist.Diagnostic.Render
import Netlist.Diagnostic.Sink
import Netlist.Project
import Netlist.Verilog.Output

/-!
# Building

A project is built by loading its components, building its chip and writing the chip's module. When
anything is wrong, nothing is written; what is wrong is printed instead.
-/

namespace Netlist.Command

/-- A project that has been built as far as possible. -/
structure Assembled where
  chip : Option Chip
  sink : DiagnosticSink

/-- Loads the components of a project and builds its chip. -/
def assemble (root : Path) (m : Manifest) : Action Assembled := do
  let loaded ← Project.loadLibrary root m
  let built := Project.buildChip m loaded.library
  Action.log (loaded.events ++ built.events)
  -- what is wrong with components comes first
  return ⟨built.chip, (DiagnosticSink.empty.extend loaded.diagnostics).extend built.diagnostics⟩

/-- Prints a line of messages, unless only errors are printed. -/
def say (s : Settings) (line : String) : Action Unit :=
  if s.quiet then return () else Action.printErrLine line

/-- Prints diagnostics, each with an empty line after it. -/
def printDiagnostics (s : Settings) (ds : List Diagnostic) : Action Unit :=
  ds.forM fun d => Action.printErrLine (d.render s.colour)

/-- A project's name and its version, if it has one. -/
def projectTitle (m : Manifest) : String :=
  -- a version that is left out is the empty text
  if m.project.version.isEmpty then m.project.name
  else s!"{m.project.name} v{m.project.version}"

/-- Prints what is wrong with a project, and gives the exit code for that. -/
def reportFailure (s : Settings) (m : Manifest) (sink : DiagnosticSink) : Action Outcome := do
  printDiagnostics s sink.held
  Action.printErrLine
    s!"error: could not build `{m.project.name}` due to {sink.errorCount} previous error(s)"
  return .ok 1

/-- Adds a diagnostic for every missing end. -/
def withViolations (sink : DiagnosticSink) (violations : List Violation) : DiagnosticSink :=
  sink.extend (violations.flatMap Violation.toDiagnostics)

/-- Prints the module of a chip. -/
def printModule (c : Chip) : Action (Except Verilog.ElaborateError Unit) := do
  Action.log (Verilog.elaborateEvents c)
  match Verilog.elaborate c with
  | .error e => return .error e
  | .ok text =>
    Action.printOut text
    return .ok ()

/-- Where the module of a project goes. -/
def outputOptions (root : Path) (m : Manifest) (outputDir : Option String) :
    Verilog.OutputOptions where
  -- the directory of the manifest is meant from its root, that of the user from where the user is
  dir := outputDir.elim (root.join m.output.dir) Path.mk
  extension := m.output.extension

/-- Prints or writes the module of a chip, and says where it went. -/
def deliver (s : Settings) (o : Verilog.OutputOptions) (stdout : Bool) (c : Chip) :
    Action (Except Verilog.ElaborateError Unit) := do
  if stdout then printModule c
  else
    match ← Verilog.writeModule c o with
    | .error e => return .error e
    | .ok path =>
      say s s!"   Generated {path.text}"
      return .ok ()

/-- **Builds the project** and writes or prints its module. -/
def build (s : Settings) (outputDir : Option String) (stdout : Bool) : Action Outcome := do
  match ← loadProject s.config with
  | .error e => return .error e
  | .ok (root, m) =>
    say s s!"   Building {projectTitle m}"
    let assembled ← assemble root m
    match assembled.chip, assembled.sink.hasErrors with
    | some c, false =>
      match ← deliver s (outputOptions root m outputDir) stdout c with
      | .ok () => return .ok 0
      -- incomplete nets are problems of the project, other failures are not
      | .error (.incomplete _ violations) =>
        reportFailure s m (withViolations assembled.sink violations)
      | .error e => return .error (.output e)
    -- no chip, or one that has been built with errors
    | _, _ => reportFailure s m assembled.sink

end Netlist.Command
