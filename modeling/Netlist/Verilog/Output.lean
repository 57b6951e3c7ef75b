import Netlist.Action
import Netlist.Verilog.Elaborate

/-!
# Module files

A module is written to a file named after its chip, in an output directory that is made if need
be. The text is complete before anything is touched, and the file is replaced as a whole.
-/

namespace Netlist.Verilog

/-- Where modules are written. -/
structure OutputOptions where
  dir : Path
  extension : String
deriving DecidableEq, Repr

namespace OutputOptions

/-- The directory that receives modules unless another is chosen. -/
def defaultDir : String := "build"

/-- The ending of module files unless another is chosen. -/
def defaultExtension : String := "v"

/-- The usual directory and ending. -/
def default : OutputOptions := ⟨⟨defaultDir⟩, defaultExtension⟩

/-- The file that receives the module of a chip. -/
def pathFor (o : OutputOptions) (chip : String) : Path :=
  o.dir.join s!"{chip}.{o.extension}"

end OutputOptions

/-- **Elaborates a chip and writes its module.** An incomplete chip leaves the files as they are,
and so does the file itself when it cannot be replaced. -/
def writeModule (c : Chip) (o : OutputOptions) : Action (Except ElaborateError Path) := do
  Action.log (elaborateEvents c)
  match elaborate c with
  | .error e => return .error e
  | .ok text =>
    let path := o.pathFor c.name
    -- nothing has been touched up to here
    match ← Action.createDirs o.dir with
    | .error e => return .error (.file o.dir e)
    | .ok () =>
      match ← Action.replaceFile path text with
      | .error e => return .error (.file path e)
      | .ok () =>
        -- only now is the new text in its place
        Action.log [.moduleWritten c.name path.text]
        return .ok path

end Netlist.Verilog
