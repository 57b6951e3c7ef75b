/-!
# Project manifests

A manifest says what a project is: its name, which is also the name of its chip, where its module
goes, where the sources of its components are, and the nets and instances of the chip.
-/

namespace Netlist

/-- What a project is called and what is said about it. -/
structure ProjectInfo where
  name : String
  version : String
  description : String
deriving DecidableEq, Repr

/-- Where the module of a project goes. -/
structure OutputSettings where
  /-- The directory, as seen from the root of the project. -/
  dir : String
  extension : String
deriving DecidableEq, Repr

/-- An instance as a manifest declares it. -/
structure InstancePlan where
  component : String
  inputs : Option (List String)
  outputs : Option (List String)
  /-- The nets of ports by the ports' names, in the order of these names. -/
  connect : Option (List (String × String))
deriving DecidableEq, Repr

/-- The nets of a declared instance. -/
inductive NetBinding where
  | positional (inputs outputs : List String)
  | named (connections : List (String × String))
deriving DecidableEq, Repr

/-- **The nets of a declared instance.** Nets by name win over nets by position; a list that is
missing is empty. -/
def InstancePlan.binding (p : InstancePlan) : NetBinding :=
  match p.connect with
  | some connections => .named connections
  | none => .positional (p.inputs.getD []) (p.outputs.getD [])

/-- Does the declaration give nets by position? -/
def InstancePlan.isPositional (p : InstancePlan) : Bool :=
  p.inputs.isSome || p.outputs.isSome

/-- The chip of a project, in the order of its creation. -/
structure ChipPlan where
  inputs : List String
  outputs : List String
  wires : List String
  instances : List InstancePlan
deriving DecidableEq, Repr

/-- A project. -/
structure Manifest where
  project : ProjectInfo
  output : OutputSettings
  /-- The files with the sources of its components, as seen from the root of the project. -/
  componentPaths : List String
  chip : ChipPlan
deriving DecidableEq, Repr

end Netlist
