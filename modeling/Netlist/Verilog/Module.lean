import Netlist.Chip.Basic
import Netlist.Handshake

/-!
# Modules

The module that a chip becomes: its ports, wires and instances, all given by the names of nets. Its
text lists every net as the three signals of its handshake, each sixteen bits wide. The ports come
first in the header and then as declarations, inputs before outputs; instances are connected by
position.
-/

namespace Netlist.Verilog

/-- An instance in a module. -/
structure Instantiation where
  component : String
  name : String
  nets : List String
deriving DecidableEq, Repr

/-- A module with handshake nets. -/
structure Module where
  name : String
  inputs : List String
  outputs : List String
  wires : List String
  instances : List Instantiation
deriving DecidableEq, Repr

/-- The module that a chip becomes, whether or not the chip is complete. -/
def Module.ofChip (c : Chip) : Module where
  name := c.name
  inputs := c.namesOfKind .boundaryInput
  outputs := c.namesOfKind .boundaryOutput
  wires := c.namesOfKind .internal
  -- by position: the nets of the inputs, and then those of the outputs
  instances := c.instances.toList.map fun i =>
    { component := i.component.name
      name := c.names.resolve i.name
      nets := i.connections.map c.netName }

/-! ### Text -/

/-- How many bits a signal has. -/
def dataWidth : Nat := 16

/-- The signals of some nets. -/
def signals (nets : List String) : List String :=
  nets.flatMap handshake

/-- Items on lines of their own, separated by commas. -/
def listing (indent : String) : List String → List String
  | [] => []
  | [item] => [indent ++ item]
  | item :: rest => (indent ++ item ++ ",") :: listing indent rest

/-- A keyword, filled up with blanks so that all declarations line up. -/
def padded (keyword : String) : String :=
  keyword ++ String.ofList (List.replicate (6 - keyword.length) ' ')

/-- The declaration of one signal. -/
def declaration (keyword signal : String) : String :=
  s!"  {padded keyword} [{dataWidth - 1}:0] {signal};"

/-- The declarations of the signals of one net, with a keyword for each. -/
def declarations (keywords : List String) (net : String) : List String :=
  List.zipWith declaration keywords (handshake net)

/-- An instance with its connections. -/
def Instantiation.lines (i : Instantiation) : List String :=
  match signals i.nets with
  -- a component without ports
  | [] => [s!"  {i.component} {i.name}();"]
  | connected =>
    [s!"  {i.component} {i.name}("] ++ listing "    " connected ++ ["  );"]

namespace Module

/-- The signals in the header. -/
def ports (m : Module) : List String :=
  signals (m.inputs ++ m.outputs)

/-- The header: the module's name and its ports. -/
def header (m : Module) : List String :=
  match m.ports with
  -- a chip without boundary nets has no list of ports
  | [] => [s!"module {m.name};"]
  | ports => [s!"module {m.name}("] ++ listing "  " ports ++ [");"]

/-- The lines of a module. -/
def lines (m : Module) : List String :=
  m.header ++
  -- the acknowledge goes the other way than data and strobe
  m.inputs.flatMap (declarations ["input", "input", "output"]) ++
  m.outputs.flatMap (declarations ["output", "output", "input"]) ++
  m.wires.flatMap (declarations ["wire", "wire", "wire"]) ++
  m.instances.flatMap Instantiation.lines ++
  ["endmodule"]

/-- **The text of a module.** -/
def text (m : Module) : String :=
  String.join (m.lines.map (· ++ "\n"))

end Module

end Netlist.Verilog
