/-!
# Identifiers of things in a chip

Nets, instances and claimed names are numbered from zero in the order in which they come to be.
Each kind of number is a type of its own, so a net cannot be looked up among the instances.
-/

namespace Netlist

/-- The number of a net within its chip. -/
@[ext] structure NetId where
  /-- How many nets came before it. -/
  index : Nat
deriving DecidableEq, Repr, Inhabited

/-- The number of an instance within its chip. -/
@[ext] structure InstanceId where
  /-- How many instances came before it. -/
  index : Nat
deriving DecidableEq, Repr, Inhabited

/-- The number of a claimed name within its name table. -/
@[ext] structure Ident where
  /-- How many names were claimed before it. -/
  index : Nat
deriving DecidableEq, Repr, Inhabited

/-- A net's number as messages write it. -/
def NetId.text (id : NetId) : String := s!"net#{id.index}"

/-- An instance's number as messages write it. -/
def InstanceId.text (id : InstanceId) : String := s!"instance#{id.index}"

/-- Stored numbers are 32-bit words. -/
def idLimit : Nat := UInt32.size

end Netlist
