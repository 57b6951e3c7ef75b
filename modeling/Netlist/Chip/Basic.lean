import Netlist.Arena
import Netlist.Chip.Error
import Netlist.Identifier
import Netlist.NameTable
import Netlist.Trace

/-!
# Chips

A chip is one design under construction: its name, the namespace of the module it will become, its
nets and its instances. Nets and instances are numbered in the order of their creation and are
never removed. This file holds the data and the ways to look at it; the files beside it make chips
grow.
-/

namespace Netlist

/-- A component placed in a chip, with a net for each of its ports. -/
structure Instance where
  id : InstanceId
  /-- Its name, as a number in the chip's name table. -/
  name : Ident
  component : Component
  /-- The nets it loads, in the order of the input ports. -/
  inputs : List NetId
  /-- The nets it drives, in the order of the output ports. -/
  outputs : List NetId
deriving DecidableEq, Repr

/-- Input nets, then output nets: the order in which an instance is connected. -/
def Instance.connections (i : Instance) : List NetId :=
  i.inputs ++ i.outputs

/-- A design under construction. -/
structure Chip where
  name : String
  names : NameTable
  nets : Arena Net
  instances : Arena Instance
deriving DecidableEq, Repr

/-- Refuses a name that is not an identifier. -/
def checkIdentifier (name : String) : Except NetlistError Unit :=
  match Identifier.flaw? name with
  | none => .ok ()
  | some flaw => .error (.invalidName name flaw.reason)

/-- The check passes exactly the identifiers. -/
theorem checkIdentifier_eq_ok_iff {name : String} :
    checkIdentifier name = .ok () ↔ IsIdentifier name := by
  unfold checkIdentifier IsIdentifier
  split <;> simp_all

namespace Chip

/-- **An empty chip**, provided that its name is an identifier. -/
def new (name : String) : Except NetlistError Chip := do
  checkIdentifier name
  -- the name is the module's, and is not among those that the module takes
  return { name, names := .empty, nets := .empty, instances := .empty }

/-- What a construction step did: the chip after it, its answer, and the events on the way. -/
structure Step (α : Type) where
  chip : Chip
  /-- What the step was for, or why it was refused. -/
  outcome : Except NetlistError α
  events : List Event

/-- A step that is refused before it does anything. -/
def refuse {α : Type} (c : Chip) (e : NetlistError) : Step α :=
  ⟨c, .error e, []⟩

/-! ### Looking at a chip -/

/-- How many nets there are. -/
def netCount (c : Chip) : Nat :=
  c.nets.size

/-- How many instances there are. -/
def instanceCount (c : Chip) : Nat :=
  c.instances.size

/-- The net with the given number. -/
def net? (c : Chip) (id : NetId) : Option Net :=
  c.nets.get? id.index

/-- The instance with the given number. -/
def instance? (c : Chip) (id : InstanceId) : Option Instance :=
  c.instances.get? id.index

/-- The name of a net of the chip. -/
def nameOf (c : Chip) (n : Net) : String :=
  c.names.resolve n.name

/-- The name of the net with the given number; the empty string if there is none. -/
def netName (c : Chip) (id : NetId) : String :=
  (c.net? id).elim "" c.nameOf

/-- The name of the instance with the given number; the empty string if there is none. -/
def instanceName (c : Chip) (id : InstanceId) : String :=
  (c.instance? id).elim "" fun i => c.names.resolve i.name

/-- The nets of one kind, oldest first. -/
def netsOfKind (c : Chip) (kind : NetKind) : List Net :=
  c.nets.toList.filter fun n => n.kind == kind

/-- The names of the nets of one kind, oldest first. -/
def namesOfKind (c : Chip) (kind : NetKind) : List String :=
  (c.netsOfKind kind).map c.nameOf

/-- **The net with the given name.** Only a net's own name finds it: the names of its strobe and
acknowledge and the names of instances find nothing. -/
def findNet? (c : Chip) (name : String) : Option NetId := do
  let ident ← c.names.get? name
  -- the name is taken, but perhaps by a strobe, an acknowledge or an instance
  let net ← c.nets.toList.find? fun n => n.name == ident
  return net.id

end Chip

end Netlist
