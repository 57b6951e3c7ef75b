import Netlist.Id

/-!
# Nets

A net joins one driver to one load. The ends inside the chip are slots that an instance can be
bound to, each at most once; the end of a boundary net that faces the outside is bound from the
start and stays so. `Net.endpoint` tells who holds an end, `Net.bind` fills a slot, `Net.unbind`
opens it again.
-/

namespace Netlist

/-- Where the two ends of a net lie. -/
inductive NetKind where
  | internal
  | boundaryInput
  | boundaryOutput
deriving DecidableEq, Repr

/-- Does one end of such a net face the outside? -/
def NetKind.isBoundary : NetKind → Bool
  | internal => false
  | boundaryInput | boundaryOutput => true

/-- The kind in words. -/
def NetKind.text : NetKind → String
  | internal => "internal net"
  | boundaryInput => "boundary input"
  | boundaryOutput => "boundary output"

/-- One of the two ends of a net. -/
inductive Slot where
  | driver
  | load
deriving DecidableEq, Repr

/-- The end in words. -/
def Slot.text : Slot → String
  | driver => "driver"
  | load => "load"

/-- Both ends, driver first. -/
def Slot.all : List Slot := [.driver, .load]

/-- Who holds an end of a net. -/
inductive Endpoint where
  | external
  | instance (id : InstanceId)
deriving DecidableEq, Repr

/-- A refused bind: what was asked of which kind of net, and who holds the end already. -/
structure SlotConflict where
  kind : NetKind
  slot : Slot
  holder : Endpoint
deriving DecidableEq, Repr

/-- The slots of a net, each with the instance bound to it. The kind of the net says which slots
there are. -/
inductive Connection where
  /-- Two open ends. -/
  | internal (driver load : Option InstanceId)
  /-- The outside drives. -/
  | boundaryInput (load : Option InstanceId)
  /-- The outside loads. -/
  | boundaryOutput (driver : Option InstanceId)
deriving DecidableEq, Repr

namespace Connection

/-- The connection of a fresh net of the given kind: every slot is open. -/
def unbound : NetKind → Connection
  | .internal => .internal none none
  | .boundaryInput => .boundaryInput none
  | .boundaryOutput => .boundaryOutput none

/-- The kind of net with this connection. -/
def kind : Connection → NetKind
  | internal _ _ => .internal
  | boundaryInput _ => .boundaryInput
  | boundaryOutput _ => .boundaryOutput

/-- The content of a slot; `none` if the end is not a slot because the outside holds it. -/
def slot? : Connection → Slot → Option (Option InstanceId)
  | internal driver _, .driver => some driver
  | internal _ load, .load => some load
  | boundaryInput load, .load => some load
  | boundaryOutput driver, .driver => some driver
  -- the outside holds these two ends, and they are never open
  | boundaryInput _, .driver => none
  | boundaryOutput _, .load => none

/-- Overwrites a slot; an end that is not a slot stays as it is. -/
def fill : Connection → Slot → Option InstanceId → Connection
  | internal _ load, .driver, x => internal x load
  | internal driver _, .load, x => internal driver x
  | boundaryInput _, .load, x => boundaryInput x
  | boundaryOutput _, .driver, x => boundaryOutput x
  -- no slot, nothing to fill
  | boundaryInput load, .driver, _ => boundaryInput load
  | boundaryOutput driver, .load, _ => boundaryOutput driver

@[simp] theorem kind_unbound (k : NetKind) : (unbound k).kind = k := by
  cases k <;> rfl

@[simp] theorem kind_fill (c : Connection) (s : Slot) (x : Option InstanceId) :
    (c.fill s x).kind = c.kind := by
  cases c <;> cases s <;> rfl

/-- Filling an end puts the content there, if the end is a slot at all. -/
theorem slot?_fill (c : Connection) (s : Slot) (x : Option InstanceId) :
    (c.fill s x).slot? s = (c.slot? s).map fun _ => x := by
  cases c <;> cases s <;> rfl

/-- The other end keeps its content. -/
theorem slot?_fill_of_ne (c : Connection) {s t : Slot} (x : Option InstanceId) (h : t ≠ s) :
    (c.fill s x).slot? t = c.slot? t := by
  cases c <;> cases s <;> cases t <;> simp_all [fill, slot?]

/-- What has been put into a slot is lost when the slot is filled again; so binding and releasing
leaves an open slot as it was. -/
theorem fill_fill (c : Connection) (s : Slot) (x y : Option InstanceId) :
    (c.fill s x).fill s y = c.fill s y := by
  cases c <;> cases s <;> rfl

end Connection

/-- A net of a chip. -/
structure Net where
  id : NetId
  name : Ident
  connection : Connection
deriving DecidableEq, Repr

namespace Net

/-- A new net, with every slot open. -/
def fresh (id : NetId) (name : Ident) (kind : NetKind) : Net :=
  ⟨id, name, .unbound kind⟩

/-- Where the ends of the net lie. -/
def kind (n : Net) : NetKind :=
  n.connection.kind

/-- Who holds an end; `none` while nobody does. -/
def endpoint (n : Net) (s : Slot) : Option Endpoint :=
  -- no slot means the outside, an empty slot means nobody
  match n.connection.slot? s with
  | none => some .external
  | some holder => holder.map .instance

/-- Who drives the net. -/
def driver (n : Net) : Option Endpoint :=
  n.endpoint .driver

/-- Who loads the net. -/
def load (n : Net) : Option Endpoint :=
  n.endpoint .load

/-- **Binds an instance to a slot.** An end that is held already, by the outside or by an instance,
refuses and names its holder. -/
def bind (n : Net) (s : Slot) (i : InstanceId) : Except SlotConflict Net :=
  -- the outside is asked first: its end is not a slot that could be open
  match n.connection.slot? s with
  | none => .error ⟨n.kind, s, .external⟩
  | some (some holder) => .error ⟨n.kind, s, .instance holder⟩
  | some none => .ok { n with connection := n.connection.fill s (some i) }

/-- Opens a slot again. -/
def unbind (n : Net) (s : Slot) : Net :=
  { n with connection := n.connection.fill s none }

/-- The ends that nobody holds, driver first. -/
def missingSlots (n : Net) : List Slot :=
  Slot.all.filter fun s => (n.endpoint s).isNone

/-- Are both ends held? -/
def isComplete (n : Net) : Bool :=
  n.driver.isSome && n.load.isSome

@[simp] theorem kind_fresh (id : NetId) (name : Ident) (k : NetKind) : (fresh id name k).kind = k :=
  Connection.kind_unbound k

/-- A net is complete exactly when no end is missing. -/
theorem isComplete_iff {n : Net} : n.isComplete = true ↔ n.missingSlots = [] := by
  unfold isComplete missingSlots driver load Slot.all
  -- who holds the ends does not matter, only whether somebody does
  cases h₁ : n.endpoint .driver <;> cases h₂ : n.endpoint .load <;> simp [h₁, h₂]

end Net

end Netlist
