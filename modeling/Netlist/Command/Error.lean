import Netlist.Component.Source
import Netlist.Manifest.Load
import Netlist.Verilog.Elaborate

/-!
# Command errors

What can keep a command from doing its work at all. Problems in a project are not among them: those
become diagnostics.
-/

namespace Netlist

/-- The name of the file with a project's manifest. -/
def manifestName : String := "weft.toml"

/-- Why a command was given up. -/
inductive CommandError where
  | noProject (start : Path)
  | manifest (e : ManifestError)
  | output (e : Verilog.ElaborateError)
  | source (path : Path) (e : FileError)
  | describe (e : DescribeError)
  | directoryExists (name : String)
  | projectExists (dir : Path)
  | file (e : FileError)
deriving DecidableEq, Repr

/-- The error in words. -/
def CommandError.message : CommandError → String
  | noProject start => s!"could not find {manifestName} in {start.text} or any parent directory"
  | manifest e => e.message
  | output e => e.message
  | source path e => s!"cannot read {path.text}: {e.message}"
  | describe e => e.message
  | directoryExists name => "directory '" ++ name ++ "' already exists"
  | projectExists dir => s!"{manifestName} already exists in {dir.text}"
  | file e => e.message

/-- What a command needs to know besides its own options. -/
structure Settings where
  quiet : Bool
  colour : Bool
  /-- Where the manifest is, or its directory. -/
  config : Option String
deriving DecidableEq, Repr

/-- What a command comes to: an exit code, or the reason why it was given up. -/
abbrev Outcome := Except CommandError Nat

end Netlist
