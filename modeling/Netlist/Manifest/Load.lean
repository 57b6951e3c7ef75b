import Netlist.Component.Source
import Netlist.FileTree
import Netlist.Manifest

/-!
# Loading manifests

A manifest is a configuration text. Its records are read first; then `Manifest.problem?` checks what
every project needs. Names of nets and components are not looked at here: that is left to building
the chip.
-/

namespace Netlist

/-- Why a manifest could not be loaded. -/
inductive ManifestError where
  | unreadable (e : FileError)
  | unparsable
  | malformed (reason : String)
  | missingField (field : String)
  | invalid (reason : String)
deriving DecidableEq, Repr

/-- The error in words. -/
def ManifestError.message : ManifestError → String
  | unreadable e => s!"failed to read configuration: {e.message}"
  | unparsable => s!"failed to parse configuration: {unparsableText}"
  | malformed reason => s!"failed to parse configuration: {reason}"
  | missingField field => s!"missing required field: {field}"
  | invalid reason => s!"validation error: {reason}"

namespace Manifest

open Toml (Value Record ShapeError Check readable lenient checkEntries)

/-! ### Records -/

/-- Reads a record after looking for the first problem in its fields. -/
def readRecord {α : Type} (name : String) (checks : List (String × Check))
    (read : Record → Except ShapeError α) (v : Value) : Except ShapeError α := do
  -- fields are checked in the order of the text, and read in the order of the record
  let r ← Record.ofValue name (checks.map (·.1)) v
  checkEntries (lenient checks) r.entries
  read r

/-- Reads what a project is called. -/
def projectOf : Value → Except ShapeError ProjectInfo :=
  readRecord "ProjectMeta"
    [("name", readable Value.asString), ("version", readable Value.asString),
      ("description", readable Value.asString)]
    fun r => do
      return {
        name := ← r.required "name" Value.asString
        version := ← r.withDefault "version" "" Value.asString
        description := ← r.withDefault "description" "" Value.asString }

/-- Where the module goes unless the manifest says otherwise. -/
def defaultOutput : OutputSettings := ⟨"build", "v"⟩

/-- Reads where the module goes. -/
def outputOf : Value → Except ShapeError OutputSettings :=
  readRecord "OutputConfig"
    [("dir", readable Value.asString), ("extension", readable Value.asString)]
    fun r => do
      return {
        dir := ← r.withDefault "dir" defaultOutput.dir Value.asString
        extension := ← r.withDefault "extension" defaultOutput.extension Value.asString }

/-- Reads where the sources of components are. -/
def pathsOf : Value → Except ShapeError (List String) :=
  readRecord "ComponentsConfig" [("paths", readable Value.asStrings)]
    fun r => r.withDefault "paths" [] Value.asStrings

/-- Reads a declared instance. -/
def instanceOf : Value → Except ShapeError InstancePlan :=
  readRecord "InstanceDecl"
    [("component", readable Value.asString), ("inputs", readable Value.asStrings),
      ("outputs", readable Value.asStrings), ("connect", readable Value.asStringMap)]
    fun r => do
      return {
        component := ← r.required "component" Value.asString
        inputs := ← r.optional "inputs" Value.asStrings
        outputs := ← r.optional "outputs" Value.asStrings
        connect := ← r.optional "connect" Value.asStringMap }

/-- The chip of a manifest that says nothing about it. -/
def defaultChip : ChipPlan := ⟨[], [], [], []⟩

/-- Reads the chip. -/
def chipOf : Value → Except ShapeError ChipPlan :=
  readRecord "ChipConfig"
    [("inputs", readable Value.asStrings), ("outputs", readable Value.asStrings),
      ("wires", readable Value.asStrings), ("instances", readable (Value.asListOf instanceOf))]
    fun r => do
      return {
        inputs := ← r.withDefault "inputs" [] Value.asStrings
        outputs := ← r.withDefault "outputs" [] Value.asStrings
        wires := ← r.withDefault "wires" [] Value.asStrings
        instances := ← r.withDefault "instances" [] (Value.asListOf instanceOf) }

/-- Reads a manifest. -/
def ofValue : Value → Except ShapeError Manifest :=
  readRecord "ProjectConfig"
    [("project", readable projectOf), ("output", readable outputOf),
      ("components", readable pathsOf), ("chip", readable chipOf)]
    fun r => do
      return {
        project := ← r.required "project" projectOf
        output := ← r.withDefault "output" defaultOutput outputOf
        componentPaths := ← r.withDefault "components" [] pathsOf
        chip := ← r.withDefault "chip" defaultChip chipOf }

/-! ### Checks -/

/-- Is the text the ending of a file name and nothing more? -/
def isBareExtension (extension : String) : Bool :=
  extension.toList.all fun c => c != '.' && c != '/' && c != '\\'

/-- How messages name a declared instance. -/
def instanceOrigin (index : Nat) : String :=
  s!"chip.instances[{index}]"

/-- What is wrong with a declared instance: it has no component, or it does not give its nets in one
of the two ways. -/
def instanceProblem? (index : Nat) (p : InstancePlan) : Option ManifestError :=
  let origin := instanceOrigin index
  if p.component.isEmpty then some (.missingField (origin ++ ".component"))
  else match p.isPositional, p.connect.isSome with
    | true, true =>
      some (.invalid s!"{origin} (`{p.component}`) gives both positional nets and `connect`")
    | false, false =>
      some (.invalid s!"{origin} (`{p.component}`) needs `inputs`/`outputs` or `connect`")
    | _, _ => none

/-- The first problem with declared instances, counted from `index`. -/
def instancesProblem? (index : Nat) : List InstancePlan → Option ManifestError
  | [] => none
  -- the first problem is the one that is told
  | p :: rest => (instanceProblem? index p).or (instancesProblem? (index + 1) rest)

/-- **What is wrong with a manifest.** -/
def problem? (m : Manifest) : Option ManifestError :=
  if m.project.name.isEmpty then some (.missingField "project.name")
  else if m.output.dir.isEmpty then some (.missingField "output.dir")
  else if m.output.extension.isEmpty then some (.missingField "output.extension")
  else if !isBareExtension m.output.extension then
    some (.invalid
      s!"output.extension `{m.output.extension}` must be a bare extension such as `v`")
  -- the instances come last, and are counted from zero
  else instancesProblem? 0 m.chip.instances

/-! ### Texts -/

/-- The value that a configuration text describes, read as something. -/
def decode {α : Type} (read : Value → Except ShapeError α) (text : String) :
    Except ManifestError α :=
  match Toml.parse? text with
  | none => .error .unparsable
  | some t =>
    match read (.table t) with
    | .error e => .error (.malformed e.message)
    | .ok a => .ok a

/-- **The manifest in a text.** -/
def ofText (text : String) : Except ManifestError Manifest := do
  -- what is read need not make sense yet
  let m ← decode ofValue text
  match m.problem? with
  | some e => .error e
  | none => .ok m

end Manifest

end Netlist
