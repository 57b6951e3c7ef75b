import Netlist.Chip.Violation

/-!
# Summaries

What a report says about a chip: its name, the names of its nets by kind, and its instances with
their components. Kinds, ends, directions and violations have stored forms too.
-/

namespace Netlist

/-- An instance in a summary. -/
structure InstanceSummary where
  name : String
  component : String
deriving DecidableEq, Repr

/-- An overview of a chip; every list is in the order of creation. -/
structure ChipSummary where
  name : String
  boundaryInputs : List String
  boundaryOutputs : List String
  internalNets : List String
  instances : List InstanceSummary
deriving DecidableEq, Repr

/-- **The overview of a chip.** -/
def Chip.summary (c : Chip) : ChipSummary where
  name := c.name
  boundaryInputs := c.namesOfKind .boundaryInput
  boundaryOutputs := c.namesOfKind .boundaryOutput
  internalNets := c.namesOfKind .internal
  instances := c.instances.toList.map fun i => ⟨c.names.resolve i.name, i.component.name⟩

/-! ### Stored forms -/

/-- The stored form of an instance's summary. -/
def InstanceSummary.toJson (i : InstanceSummary) : Json :=
  .object [("name", .string i.name), ("component", .string i.component)]

/-- The stored form of a summary. -/
def ChipSummary.toJson (s : ChipSummary) : Json :=
  .object [("name", .string s.name), ("boundary_inputs", .strings s.boundaryInputs),
    ("boundary_outputs", .strings s.boundaryOutputs), ("internal_nets", .strings s.internalNets),
    ("instances", .array (s.instances.map InstanceSummary.toJson))]

/-- The name of a kind in stored form. -/
def NetKind.storedName : NetKind → String
  | internal => "internal"
  | boundaryInput => "boundary-input"
  | boundaryOutput => "boundary-output"

/-- Reads a kind. -/
def NetKind.ofJson? (x : Json) : Option NetKind := do
  match ← x.asAlternative? with
  | "internal" => some .internal
  | "boundary-input" => some .boundaryInput
  | "boundary-output" => some .boundaryOutput
  | _ => none

/-- Reads an end. -/
def Slot.ofJson? (x : Json) : Option Slot := do
  match ← x.asAlternative? with
  | "driver" => some .driver
  | "load" => some .load
  | _ => none

/-- Reads a direction. -/
def PortDirection.ofJson? (x : Json) : Option PortDirection := do
  match ← x.asAlternative? with
  | "input" => some .input
  | "output" => some .output
  | _ => none

/-- Reads a number of a net, an instance or a name: a 32-bit word. -/
def indexOfJson? (x : Json) : Option Nat :=
  x.asNatBelow? idLimit

/-- The stored form of a violation; the net's number is not stored. -/
def Violation.toJson (v : Violation) : Json :=
  .object [("net", .string v.net), ("kind", .string v.kind.storedName),
    ("missing", .strings (v.missing.map Slot.text))]

end Netlist
