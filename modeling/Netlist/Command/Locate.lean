import Netlist.Action
import Netlist.Command.Error

/-!
# Finding projects

The root of a project is the directory with its manifest. It is looked for in the working directory
and upwards, unless the user has named it or the manifest.
-/

namespace Netlist.Command

/-- The first of some directories that has a manifest. -/
def firstWithManifest : List Path → Action (Option Path)
  | [] => return none
  | dir :: rest => do
    -- a directory of this name will do, and then cannot be read
    if (← Action.kindAt (dir.join manifestName)).isSome then return some dir
    else firstWithManifest rest

/-- The nearest directory with a manifest, from a directory upwards. -/
def findRoot (start : Path) : Action (Except CommandError Path) := do
  match ← firstWithManifest start.ancestors with
  | some root => return .ok root
  | none => return .error (.noProject start)

/-- The root of a project and its manifest. -/
structure Located where
  root : Path
  file : Path
deriving DecidableEq, Repr

/-- The project that the user has named. A file is the manifest itself, whatever it is called. -/
def locateNamed (config : Path) : Action Located := do
  match ← Action.kindAt config with
  | some .file => return ⟨config.parent?.getD ⟨"."⟩, config⟩
  -- anything else is taken for a directory, be it there or not
  | _ => return ⟨config, config.join manifestName⟩

/-- The project of a user. -/
def locate (config : Option String) : Action (Except CommandError Located) := do
  match config with
  | some path => return .ok (← locateNamed ⟨path⟩)
  -- nothing is named, so it is searched for, upwards from the working directory
  | none =>
    match ← findRoot (← Action.currentDir) with
    | .error e => return .error e
    | .ok root => return .ok ⟨root, root.join manifestName⟩

/-- The manifest in a file. -/
def readManifest (file : Path) : Action (Except ManifestError Manifest) := do
  match ← Action.fileText file with
  | .error e => return .error (.unreadable e)
  | .ok text => return Manifest.ofText text

/-- **The root of a user's project, and its manifest.** -/
def loadProject (config : Option String) : Action (Except CommandError (Path × Manifest)) := do
  match ← locate config with
  | .error e => return .error e
  | .ok project =>
    match ← readManifest project.file with
    | .error e => return .error (.manifest e)
    | .ok m =>
      Action.log [.manifestLoaded project.root.text m.project.name]
      return .ok (project.root, m)

end Netlist.Command
