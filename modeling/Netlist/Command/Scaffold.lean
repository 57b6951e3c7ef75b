import Netlist.Command.Build

/-!
# Starting projects

A new project has a manifest and one component source, so that it can be built at once. Its chip is
named after its directory, as far as that name can be an identifier.
-/

namespace Netlist.Command

/-! ### Names -/

/-- The name of a chip whose directory has no name. -/
def unnamedChip : String := "my_chip"

/-- A character of a directory's name in the name of a chip. -/
def chipNameChar (c : Char) : Char :=
  if c.isAlphanum then c else '_'

/-- A name that starts like an identifier. -/
def withStart (cs : List Char) : List Char :=
  match cs with
  | [] => ['_']
  | c :: _ => if Identifier.isStart c then cs else '_' :: cs

/-- **The name of the chip of a project** in a directory of the given name. -/
def chipNameFor (dirName : String) : String :=
  let name := String.ofList (withStart (dirName.toList.map chipNameChar))
  -- only a reserved word can still be refused
  if (Identifier.flaw? name).isNone then name else name ++ "_"

/-! ### Files -/

/-- The directory for the sources of components. -/
def componentsDir : String := "components"

/-- The file with the source of the first component. -/
def firstComponentFile : String := "adder.toml"

/-- The manifest of a new project. -/
def manifestTemplate (chipName : String) : String :=
  String.join <| List.map (· ++ "\n") <|
    ["[project]",
      -- an identifier can stand between quotes as it is
      "name = \"" ++ chipName ++ "\"",
      "version = \"0.1.0\"",
      "",
      "[output]",
      "dir = \"build\"",
      "",
      "[components]",
      "paths = [\"components/adder.toml\"]",
      "",
      "[chip]",
      "inputs = [\"a\", \"b\"]",
      "outputs = [\"sum\"]",
      "",
      "[[chip.instances]]",
      "component = \"Adder\"",
      "inputs = [\"a\", \"b\"]",
      "outputs = [\"sum\"]"]

/-- The source of the first component of a new project. -/
def componentTemplate : String :=
  String.join <| List.map (· ++ "\n") <|
    ["name = \"Adder\"",
      "inputs = [\"a\", \"b\"]",
      "outputs = [\"z\"]",
      "doc = \"Adds two 16-bit streams.\""]

/-- Writes files, up to the first that cannot be written. -/
def writeAll : List (Path × String) → Action (Except FileError Unit)
  | [] => return .ok ()
  | (path, text) :: rest => do
    match ← Action.writeFile path text with
    | .error e => return .error e
    | .ok () => writeAll rest

/-- The files of a new project. -/
def scaffoldFiles (root : Path) (chipName : String) : List (Path × String) :=
  [(root.join manifestName, manifestTemplate chipName),
    ((root.join componentsDir).join firstComponentFile, componentTemplate)]

/-- Writes the files of a new project, and gives their paths. -/
def scaffold (root : Path) (chipName : String) : Action (Except FileError (List Path)) := do
  -- this makes the root as well, if it is not there
  match ← Action.createDirs (root.join componentsDir) with
  | .error e => return .error e
  | .ok () =>
    match ← writeAll (scaffoldFiles root chipName) with
    | .error e => return .error e
    | .ok () => return .ok ((scaffoldFiles root chipName).map (·.1))

/-! ### The command -/

/-- The directory of a new project. A directory that is named must not be there, and is made. -/
def projectDir (name : Option String) : Action (Except CommandError Path) := do
  match name with
  | none => return .ok (← Action.currentDir)
  | some n =>
    if (← Action.kindAt ⟨n⟩).isSome then return .error (.directoryExists n)
    else
      match ← Action.createDirs ⟨n⟩ with
      | .error e => return .error (.file e)
      | .ok () => return .ok ⟨n⟩

/-- Fills the directory of a new project. -/
def fillDir (s : Settings) (dir : Path) : Action Outcome := do
  let chipName := chipNameFor (dir.fileName?.getD unnamedChip)
  say s s!"  Creating new Weft project `{chipName}`"
  match ← scaffold dir chipName with
  | .error e => return .error (.file e)
  | .ok paths =>
    paths.forM fun path => say s s!"     Created {path.text}"
    return .ok 0

/-- **Starts a project.** -/
def init (s : Settings) (name : Option String) : Action Outcome := do
  match ← projectDir name with
  | .error e => return .error e
  | .ok dir =>
    -- nothing that is there is overwritten
    if (← Action.kindAt (dir.join manifestName)).isSome then return .error (.projectExists dir)
    else fillDir s dir

end Netlist.Command
