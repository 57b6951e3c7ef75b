import Netlist.Chip.Basic
import Netlist.FreshName

/-!
# Adding instances

An instance is added with nets for all of its ports or not at all. The nets are bound one after the
other, the loads of the inputs and then the drivers of the outputs; when one of them refuses, those
bound before are released again, the last one first.
-/

namespace Netlist.Chip

/-- What names of instances start with. -/
def instanceStem : String := "inst"

/-- One end of one net. -/
structure NetEnd where
  net : NetId
  slot : Slot
deriving DecidableEq, Repr

/-- What became of binding a list of net ends to an instance. -/
structure Binding where
  nets : Arena Net
  /-- The ends that were bound, in order. -/
  bound : List NetEnd
  /-- The end that refused, and why. -/
  refused : Option (NetEnd × SlotConflict)

/-- Binds net ends to an instance, up to the first that refuses. -/
def bindAll (id : InstanceId) : List NetEnd → Arena Net → Binding
  | [], nets => ⟨nets, [], none⟩
  | e :: rest, nets =>
    match nets.get? e.net.index with
    -- no net has this number; nets are checked before they are bound
    | none => bindAll id rest nets
    | some n =>
      match n.bind e.slot id with
      | .error conflict => ⟨nets, [], some (e, conflict)⟩
      | .ok n' =>
        let after := bindAll id rest (nets.modify e.net.index fun _ => n')
        { after with bound := e :: after.bound }

/-- Releases net ends, in the given order. -/
def unbindAll (ends : List NetEnd) (nets : Arena Net) : Arena Net :=
  -- numbers are all that is needed, so the ends can be released in any order
  ends.foldl (fun nets e => nets.modify e.net.index fun n => n.unbind e.slot) nets

/-- The net ends that an instance occupies, in the order in which they are bound. -/
def endsOf (inputs outputs : List NetId) : List NetEnd :=
  inputs.map (⟨·, .load⟩) ++ outputs.map (⟨·, .driver⟩)

/-- Who holds an end, in words; `pending` is the instance that is being added. -/
def holderText (c : Chip) (pending : InstanceId) : Endpoint → String
  | .external => "the chip boundary"
  | .instance id =>
    -- it has no name yet, as names are claimed last
    if id = pending then "the instance being created" else s!"instance `{c.instanceName id}`"

/-- The error for an end that refused. -/
def conflictError (c : Chip) (pending : InstanceId) (e : NetEnd) (conflict : SlotConflict) :
    NetlistError :=
  .alreadyBound (c.netName e.net) conflict.kind conflict.slot (c.holderText pending conflict.holder)

/-- The first net number that is not a net of the chip. -/
def strangeNet? (c : Chip) (ids : List NetId) : Option NetId :=
  ids.find? fun id => !c.nets.contains id.index

/-- What is wrong with a request for an instance, before any net is touched. -/
def requestError? (c : Chip) (d : Component) (inputs outputs : List NetId) : Option NetlistError :=
  if (inputs.length, outputs.length) ≠ d.arity then
    some (.arityMismatch d.name d.inputPorts.length d.outputPorts.length
      inputs.length outputs.length)
  else match checkIdentifier d.name with
    | .error e => some e
    | .ok () =>
      -- the nets of the inputs are looked at before those of the outputs
      (c.strangeNet? (inputs ++ outputs)).map fun id =>
        .internal s!"{id.text} is not part of chip `{c.name}`"

/-- The name that the next instance of a component gets: the first free form of
`inst_<number>_<component>`. -/
def nextInstanceName (c : Chip) (d : Component) : String :=
  freshName (fun name => !c.names.isTaken name)
    s!"{instanceStem}_{c.instances.next}_{d.name}"

/-- **Adds an instance**, binding nets to its ports by position. The numbers of nets must be the
component's, its name must be an identifier, the nets must belong to the chip, and every end must
be free; otherwise the chip stays as it was. -/
def instantiate (c : Chip) (d : Component) (inputs outputs : List NetId) : Step InstanceId :=
  match c.requestError? d inputs outputs with
  | some e => c.refuse e
  | none =>
    -- the number that the instance gets if all goes well
    let id : InstanceId := ⟨c.instances.next⟩
    let binding := bindAll id (endsOf inputs outputs) c.nets
    -- the names of nets do not change when they are bound
    let boundEvents := binding.bound.map fun e => Event.bound (c.netName e.net) e.slot id
    match binding.refused with
    | some (e, conflict) =>
      -- every end that was bound is released, the last one first
      let error := c.conflictError id e conflict
      { chip := { c with nets := unbindAll binding.bound.reverse binding.nets }
        outcome := .error error
        events := boundEvents ++ [.rolledBack c.name d.name error.message] }
    | none =>
      -- nothing can go wrong any more, and only now is a name claimed
      let name := c.nextInstanceName d
      { chip := { c with
          nets := binding.nets
          names := c.names.claim name
          instances := c.instances.push
            { id, name := c.names.claimedId name, component := d, inputs, outputs } }
        outcome := .ok id
        events := boundEvents ++ [.instanceRegistered c.name name d.name] }

/-! ### Connections by name -/

/-- The nets given so far for the ports of one component, by direction and position. -/
structure PortMap where
  /-- A net for each input port, once it is given. -/
  inputs : List (Option NetId)
  outputs : List (Option NetId)
deriving DecidableEq, Repr

namespace PortMap

/-- The map in which no port has a net. -/
def empty (d : Component) : PortMap :=
  ⟨d.inputPorts.map fun _ => none, d.outputPorts.map fun _ => none⟩

/-- The nets of the ports of one direction. -/
def ofDirection (m : PortMap) : PortDirection → List (Option NetId)
  | .input => m.inputs
  | .output => m.outputs

/-- Has the port at a position been given a net? -/
def isGiven (m : PortMap) (direction : PortDirection) (i : Nat) : Bool :=
  ((m.ofDirection direction)[i]?.join).isSome

/-- Gives the port at a position a net. -/
def give (m : PortMap) (direction : PortDirection) (i : Nat) (net : NetId) : PortMap :=
  match direction with
  | .input => { m with inputs := m.inputs.set i (some net) }
  | .output => { m with outputs := m.outputs.set i (some net) }

/-- Adds one connection. -/
def connect (d : Component) (m : PortMap) (port : String) (net : NetId) :
    Except NetlistError PortMap :=
  match d.findPort? port with
  | none => .error (.unknownPort d.name port)
  | some (direction, i) =>
    -- a repeated name is always the first port of that name, so a second one cannot be reached
    if m.isGiven direction i then .error (.duplicatePort d.name port direction)
    else .ok (m.give direction i net)

/-- Adds connections, up to the first that is refused. -/
def connectAll (d : Component) : List (String × NetId) → PortMap → Except NetlistError PortMap
  | [], m => .ok m
  | (port, net) :: rest, m =>
    match m.connect d port net with
    -- the connections behind it are not looked at
    | .error e => .error e
    | .ok m' => connectAll d rest m'

/-- The nets of the ports of one direction, if every port has one. -/
def filled (d : Component) (direction : PortDirection) :
    List String → List (Option NetId) → Except NetlistError (List NetId)
  | port :: ports, net :: nets =>
    match net with
    | none => .error (.unconnectedPort d.name port direction)
    | some id =>
      match filled d direction ports nets with
      | .error e => .error e
      | .ok ids => .ok (id :: ids)
  -- the two lists have the same length, as the map was made of the ports
  | _, _ => .ok []

end PortMap

/-- The nets for the inputs and for the outputs of a component, from connections by name. Each port
must be named once. -/
def placePorts (d : Component) (connections : List (String × NetId)) :
    Except NetlistError (List NetId × List NetId) := do
  let ports ← PortMap.connectAll d connections (.empty d)
  let inputs ← PortMap.filled d .input d.inputPorts ports.inputs
  let outputs ← PortMap.filled d .output d.outputPorts ports.outputs
  return (inputs, outputs)

/-- **Adds an instance**, binding nets to its ports by name. -/
def instantiateByName (c : Chip) (d : Component) (connections : List (String × NetId)) :
    Step InstanceId :=
  match placePorts d connections with
  -- nothing has been asked of the chip yet
  | .error e => c.refuse e
  | .ok (inputs, outputs) => c.instantiate d inputs outputs

end Netlist.Chip
