import Netlist.Chip.Basic
import Netlist.FreshName
import Netlist.Handshake

/-!
# Adding nets

A net takes three names of its chip's namespace at once, so a new net is refused if any of them is
taken. Nets can be named by their creator or be named `wire_<number>` automatically.
-/

namespace Netlist.Chip

/-- What automatic names of nets start with. -/
def wireStem : String := "wire"

/-- The first of the signals of a net called `base` whose name is taken. -/
def clash? (c : Chip) (base : String) : Option String :=
  (handshake base).find? c.names.isTaken

/-- Adds a net whose three names are free. -/
def registerNet (c : Chip) (name : String) (kind : NetKind) : Step NetId :=
  -- the data name is claimed first, so it gets the number that the claim would give it alone
  let ident := c.names.claimedId name
  let id : NetId := ⟨c.nets.next⟩
  { chip := { c with
      names := c.names.claimAll (handshake name)
      nets := c.nets.push (.fresh id ident kind) }
    outcome := .ok id
    events := [.netCreated c.name name kind] }

/-- **Adds a net of the given kind and name.** The name must be an identifier, and none of its three
signals may be taken. -/
def createNet (c : Chip) (name : String) (kind : NetKind) : Step NetId :=
  match checkIdentifier name with
  | .error e => c.refuse e
  | .ok () =>
    -- the signals of the net, not only its name, have to be new
    match c.clash? name with
    | some existing => c.refuse (.duplicateName name existing)
    | none => c.registerNet name kind

/-- Adds an internal net. -/
def createInternal (c : Chip) (name : String) : Step NetId :=
  c.createNet name .internal

/-- Adds a net that is driven from outside. -/
def createBoundaryInput (c : Chip) (name : String) : Step NetId :=
  c.createNet name .boundaryInput

/-- Adds a net that is loaded from outside. -/
def createBoundaryOutput (c : Chip) (name : String) : Step NetId :=
  c.createNet name .boundaryOutput

/-- The name that the next automatically named net gets: the first form of `wire_<number>` whose
three signals are free. -/
def nextWireName (c : Chip) : String :=
  freshName (fun name => (c.clash? name).isNone) s!"{wireStem}_{c.nets.next}"

/-- **Adds an internal net under an automatic name.** -/
def createWire (c : Chip) : Step NetId :=
  -- the name is an identifier and free by its making, so nothing is checked again
  c.registerNet c.nextWireName .internal

/-- There is no clash if none of the three signals is taken. -/
theorem clash?_eq_none_iff {c : Chip} {base : String} :
    c.clash? base = none ↔ ∀ s ∈ handshake base, s ∉ c.names.toList := by
  simp [clash?]

end Netlist.Chip
