import Netlist.Json

/-!
# Components

A component is a black box with a name and two ordered lists of ports. The name becomes the module
type of each of its instances; the order of the ports says how nets are bound to them.
-/

namespace Netlist

/-- The direction of a port, seen from the component. -/
inductive PortDirection where
  | input
  | output
deriving DecidableEq, Repr

/-- The direction in words. -/
def PortDirection.text : PortDirection → String
  | input => "input"
  | output => "output"

/-- What a netlist knows about a component. Nothing is checked here: ports may even share a
name. -/
structure Component where
  name : String
  /-- The names of its input ports, in order. -/
  inputPorts : List String
  outputPorts : List String
  documentation : String
deriving DecidableEq, Repr

namespace Component

/-- The port names of one direction. -/
def ports (c : Component) : PortDirection → List String
  | .input => c.inputPorts
  | .output => c.outputPorts

/-- The numbers of input and of output ports. -/
def arity (c : Component) : Nat × Nat :=
  (c.inputPorts.length, c.outputPorts.length)

/-- The first port of the given name, inputs before outputs: its direction, and its position among
the ports of that direction. -/
def findPort? (c : Component) (port : String) : Option (PortDirection × Nat) :=
  match c.inputPorts.findIdx? (· == port) with
  | some i => some (.input, i)
  -- an output of the same name as an input is never found
  | none => (c.outputPorts.findIdx? (· == port)).map fun i => (.output, i)

/-- Every port name, inputs before outputs. -/
def allPorts (c : Component) : List String :=
  c.inputPorts ++ c.outputPorts

/-- A port that is found is the port that was asked for. -/
theorem getElem?_ports_of_findPort? {c : Component} {port : String} {d : PortDirection} {i : Nat}
    (h : c.findPort? port = some (d, i)) : (c.ports d)[i]? = some port := by
  unfold findPort? at h
  split at h
  · next j hj =>
    cases h
    obtain ⟨hlt, heq, -⟩ := List.findIdx?_eq_some_iff_getElem.1 hj
    simpa [ports, List.getElem?_eq_getElem hlt] using heq
  · next hnone =>
    obtain ⟨j, hj, he⟩ := Option.map_eq_some_iff.1 h
    cases he
    obtain ⟨hlt, heq, -⟩ := List.findIdx?_eq_some_iff_getElem.1 hj
    simpa [ports, List.getElem?_eq_getElem hlt] using heq

/-! ### Stored form -/

/-- The stored form of a component. -/
def toJson (c : Component) : Json :=
  .object [("name", .string c.name), ("input_ports", .strings c.inputPorts),
    ("output_ports", .strings c.outputPorts), ("documentation", .string c.documentation)]

/-- Reads the stored form; documentation may be left out. -/
def ofJson? (x : Json) : Option Component := do
  let name ← x.field? "name" 4 0 (.required Json.asString?)
  let inputPorts ← x.field? "input_ports" 4 1 (.required (Json.asListOf? Json.asString?))
  let outputPorts ← x.field? "output_ports" 4 2 (.required (Json.asListOf? Json.asString?))
  let documentation ← x.field? "documentation" 4 3 (.withDefault "" Json.asString?)
  return { name, inputPorts, outputPorts, documentation }

end Component

end Netlist
