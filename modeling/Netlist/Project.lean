import Netlist.Action
import Netlist.Chip.Instances
import Netlist.Chip.Nets
import Netlist.Component.Library
import Netlist.Manifest.Load

/-!
# Building projects

The components of a project are described, and then its chip is built net by net and instance by
instance. Nothing stops at a failure: what fails is left out and becomes a diagnostic, so that one
run tells everything that is wrong.
-/

namespace Netlist.Project

/-! ### Components -/

/-- The diagnostic for a component source that cannot be used. -/
def sourceDiagnostic (path reason : String) : Diagnostic :=
  (Diagnostic.error 310 s!"cannot load component source: {reason}").withSubject path

/-- The components of a project, and what went wrong with them. -/
structure LoadedLibrary where
  library : Library
  diagnostics : List Diagnostic
  events : List Event

namespace LoadedLibrary

/-- No component has been loaded yet. -/
def empty : LoadedLibrary := ⟨.empty, [], []⟩

/-- Adds the content of a file that is listed under `path`. -/
def add (l : LoadedLibrary) (path : String) (content : Except FileError String) : LoadedLibrary :=
  match content with
  | .error e => { l with diagnostics := l.diagnostics ++ [sourceDiagnostic path e.message] }
  | .ok source =>
    let d := l.library.describe Component.describe source
    -- a call that fails leaves the library as it is
    let failed := match d.outcome with
      | .ok _ => []
      | .error e => [sourceDiagnostic path e.message]
    ⟨d.library, l.diagnostics ++ failed, l.events ++ d.events⟩

end LoadedLibrary

/-- Loads the components in further files. -/
def loadFrom (root : Path) : List String → LoadedLibrary → Action LoadedLibrary
  | [], l => return l
  | path :: rest, l => do
    let content ← Action.fileText (root.join path)
    loadFrom root rest (l.add path content)

/-- **Loads the components of a project.** -/
def loadLibrary (root : Path) (m : Manifest) : Action LoadedLibrary :=
  loadFrom root m.componentPaths .empty

/-! ### Chips -/

/-- A chip in the making, and what went wrong with it. -/
structure Build where
  chip : Chip
  diagnostics : List Diagnostic
  events : List Event

/-- The note that says which part of the manifest a diagnostic is about. -/
def originNote (origin : String) : String :=
  s!"in `{origin}`"

/-- The diagnostics of a step: none, or the one for its error. -/
def stepDiagnostics {α : Type} (origin : String) : Except NetlistError α → List Diagnostic
  | .ok _ => []
  | .error e => [e.toDiagnostic.withNote (originNote origin)]

namespace Build

/-- Takes a step on the chip over. -/
def take {α : Type} (b : Build) (origin : String) (s : Chip.Step α) : Build :=
  ⟨s.chip, b.diagnostics ++ stepDiagnostics origin s.outcome, b.events ++ s.events⟩

/-- Adds diagnostics. -/
def report (b : Build) (ds : List Diagnostic) : Build :=
  { b with diagnostics := b.diagnostics ++ ds }

/-- Adds nets of one kind. -/
def addNets (kind : NetKind) (origin : String) (names : List String) (b : Build) : Build :=
  names.foldl (fun b name => b.take origin (b.chip.createNet name kind)) b

end Build

/-- The diagnostic for a component that the library does not have. -/
def unknownComponent (origin component : String) : Diagnostic :=
  ((Diagnostic.error 308 s!"unknown component `{component}`").withSubject origin).withHelp
    "list its source under `components.paths`"

/-- The diagnostic for a net that the chip does not have. -/
def unknownNet (origin net : String) : Diagnostic :=
  ((Diagnostic.error 309 s!"unknown net `{net}`").withSubject origin).withHelp
    "declare it under `chip.inputs`, `chip.outputs` or `chip.wires`"

/-- The diagnostics for the names of a list that are no nets of the chip. -/
def unknownNets (c : Chip) (origin : String) (names : List String) : List Diagnostic :=
  (names.filter fun name => (c.findNet? name).isNone).map (unknownNet origin)

/-- The nets with the given names. -/
def netsNamed (c : Chip) (names : List String) : List NetId :=
  names.filterMap c.findNet?

/-- The names of the nets of a binding. -/
def boundNames : NetBinding → List String
  | .positional inputs outputs => inputs ++ outputs
  | .named connections => connections.map (·.2)

/-- Adds an instance with nets that all belong to the chip. -/
def connect (c : Chip) (d : Component) : NetBinding → Chip.Step InstanceId
  | .positional inputs outputs => c.instantiate d (netsNamed c inputs) (netsNamed c outputs)
  | .named connections =>
    c.instantiateByName d ((connections.map (·.1)).zip (netsNamed c (connections.map (·.2))))

/-- Adds a declared instance, if its component and its nets are there. -/
def Build.addInstance (library : Library) (b : Build) (index : Nat) (p : InstancePlan) : Build :=
  let origin := Manifest.instanceOrigin index
  match library.get? p.component with
  | none => b.report [unknownComponent origin p.component]
  | some d =>
    -- every unknown net is reported, and then the instance is left out
    match unknownNets b.chip origin (boundNames p.binding) with
    | [] => b.take origin (connect b.chip d p.binding)
    | unknown => b.report unknown

/-- Adds declared instances, counted from `index`. -/
def Build.addInstances (library : Library) (index : Nat) : List InstancePlan → Build → Build
  | [], b => b
  | p :: rest, b => addInstances library (index + 1) rest (b.addInstance library index p)

/-- What has become of the chip of a project. -/
structure BuiltChip where
  chip : Option Chip
  diagnostics : List Diagnostic
  events : List Event

/-- The chip of a project, built from an empty one. -/
def buildFrom (library : Library) (plan : ChipPlan) (c : Chip) : Build :=
  -- instances come last, so that they find every net
  Build.addInstances library 0 plan.instances <|
    Build.addNets .internal "chip.wires" plan.wires <|
    Build.addNets .boundaryOutput "chip.outputs" plan.outputs <|
    Build.addNets .boundaryInput "chip.inputs" plan.inputs ⟨c, [], []⟩

/-- **Builds the chip of a project**: inputs, outputs, wires, then instances. -/
def buildChip (m : Manifest) (library : Library) : BuiltChip :=
  match Chip.new m.project.name with
  -- without a name there is nothing to build on
  | .error e =>
    ⟨none, [e.toDiagnostic.withNote "the chip is named by `project.name`"], []⟩
  | .ok c =>
    let b := buildFrom library m.chip c
    ⟨some b.chip, b.diagnostics, b.events⟩

end Netlist.Project
