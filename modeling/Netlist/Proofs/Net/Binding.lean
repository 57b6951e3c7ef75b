import Netlist.Net

/-!
# Binding one end of a net

What `Net.bind` and `Net.unbind` do to a single net, said through `Net.endpoint` alone, so that
nothing above this file has to look into a connection.

* `Net.bind_of_endpoint_eq_none` and `Net.bind_of_endpoint_eq_some`: a bind succeeds exactly on an
  end that nobody holds, and names the holder otherwise.
* `Net.endpoint_held`: a bind changes who holds its own end and nothing else.
* `Net.unbind_held`: opening the end again restores the net.

Which ends the outside holds is decided by the kind of the net (`NetKind.outerEnd?`), so a bind
never changes it.
-/

namespace Netlist

/-- The end of such a net that the outside holds, if there is one. -/
def NetKind.outerEnd? : NetKind → Option Slot
  | internal => none
  | boundaryInput => some .driver
  | boundaryOutput => some .load

/-- Writing its own content into a slot changes nothing. -/
theorem Connection.fill_eq_self {c : Connection} {s : Slot} {x : Option InstanceId}
    (h : c.slot? s = some x) : c.fill s x = c := by
  cases c <;> cases s <;> cases h <;> rfl

namespace Net

variable {n : Net} {s : Slot}

/-! ### Reading an end -/

/-- Nobody holds an end exactly if it is a slot, and the slot is empty. -/
theorem endpoint_eq_none_iff : n.endpoint s = none ↔ n.connection.slot? s = some none := by
  unfold endpoint
  cases h : n.connection.slot? s with
  | none => simp
  | some holder => simp

/-- The outside holds an end exactly when the kind of the net says so. -/
theorem endpoint_eq_external_iff : n.endpoint s = some .external ↔ n.kind.outerEnd? = some s := by
  -- which ends are slots depends on the constructor alone, not on what is in them
  obtain ⟨id, name, connection⟩ := n
  cases connection <;> cases s <;> simp [endpoint, kind, Connection.kind, Connection.slot?,
    NetKind.outerEnd?]

/-! ### Filling an end -/

/-- The net with an end held by an instance. -/
def held (n : Net) (s : Slot) (i : InstanceId) : Net :=
  { n with connection := n.connection.fill s (some i) }

/-- Filling an end does not move the ends of the net. -/
@[simp] theorem kind_held (n : Net) (s : Slot) (i : InstanceId) : (n.held s i).kind = n.kind :=
  Connection.kind_fill ..

/-- An open end can be bound. -/
theorem bind_of_endpoint_eq_none (i : InstanceId) (h : n.endpoint s = none) :
    n.bind s i = .ok (n.held s i) := by
  unfold bind
  rw [endpoint_eq_none_iff.1 h]
  rfl

/-- A held end refuses and names its holder, whether this is the outside or an instance. -/
theorem bind_of_endpoint_eq_some (i : InstanceId) {o : Endpoint} (h : n.endpoint s = some o) :
    n.bind s i = .error ⟨n.kind, s, o⟩ := by
  unfold endpoint at h
  unfold bind
  -- the same look at the slot decides what holds the end and how a bind is answered
  cases hslot : n.connection.slot? s with
  | none =>
    rw [hslot] at h
    cases h
    rfl
  | some holder =>
    rw [hslot] at h
    obtain ⟨j, rfl, rfl⟩ := Option.map_eq_some_iff.1 h
    rfl

/-- Filling an open end puts the instance there and leaves the other end alone. -/
theorem endpoint_held (i : InstanceId) (h : n.endpoint s = none) (t : Slot) :
    (n.held s i).endpoint t = if t = s then some (.instance i) else n.endpoint t := by
  rw [endpoint_eq_none_iff] at h
  by_cases hts : t = s
  · subst hts
    rw [if_pos rfl]
    unfold endpoint held
    rw [Connection.slot?_fill, h]
    rfl
  · rw [if_neg hts]
    unfold endpoint held
    rw [Connection.slot?_fill_of_ne _ _ hts]

/-- Opening an end that was open before it was filled restores the net. -/
theorem unbind_held (i : InstanceId) (h : n.endpoint s = none) : (n.held s i).unbind s = n := by
  unfold unbind held
  rw [Connection.fill_fill, Connection.fill_eq_self (endpoint_eq_none_iff.1 h)]

end Net

end Netlist
