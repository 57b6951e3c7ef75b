import Netlist.Command.Check
import Netlist.Command.Describe
import Netlist.Command.Scaffold
import Netlist.CommandLine.Arguments

/-!
# Commands

The whole program as one action: the arguments are read, the command is carried out, and an exit
code tells how it went.
-/

namespace Netlist

/-- **Carries a request out.** -/
def Request.carryOut (s : Settings) : Request → Action Outcome
  | init name => Command.init s name
  | build outputDir stdout => Command.build s outputDir stdout
  | check format => Command.check s format
  | describe source format => Command.describe ⟨source⟩ format

/-- What the commands need to know. -/
def Invocation.settings (i : Invocation) (env : Environment) : Settings where
  quiet := i.quiet
  colour := i.paints env
  config := i.config

/-- **Carries out what a user asks for**, and gives the exit code. -/
def Invocation.run (i : Invocation) (env : Environment) : Action Nat := do
  match ← i.request.carryOut (i.settings env) with
  | .ok code => return code
  | .error e =>
    -- not a diagnostic: there is no project that it could be about
    Action.printErrLine s!"error: {e.message}"
    return 1

/-- The program and its version. -/
def versionText : String := "weft 0.1.0"

/-- How a command line that makes no sense is answered. -/
def usageText : String :=
  "usage: weft [--quiet] [--verbose] [--color WHEN] [--config PATH] COMMAND\n" ++
  "commands: init [NAME], build [--output-dir DIR] [--stdout], check [--format FORMAT],\n" ++
  "  describe SOURCE [--format FORMAT]\n"

/-- The exit code for a command line that makes no sense. -/
def usageCode : Nat := 2

/-- **The program**: from its arguments to its exit code. -/
def program (env : Environment) (args : List String) : Action Nat := do
  match CommandLine.invocation args with
  | .ok i => i.run env
  | .error .version =>
    Action.printOut (versionText ++ "\n")
    return 0
  | .error .usage =>
    Action.print .err usageText (pure ())
    return usageCode

/-- Which events the log of a program shows. -/
def programFilter (env : Environment) (args : List String) : LogFilter :=
  match CommandLine.invocation args with
  | .ok i => i.logFilter env
  -- without a command there is nothing to log
  | .error _ => .upTo 0

end Netlist
