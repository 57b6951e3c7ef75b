import Netlist.Proofs.Chip.Acceptance
import Netlist.Proofs.Chip.Namespace

/-!
# The namespace is the record of a run

A run of calls creates nets and instances, one for each call that is not refused. `Chip.creations`
lists them in order, each with its name: chosen by the caller, or found by the search for an
automatic name at that moment. `run_namespace` says that the name table at the end is this list
written out, three signals for a net and one name for an instance. So nothing is claimed twice,
refused calls leave nothing behind, and no two things of the module share a name.

What one call does is `extends_perform`, what a run does is `extends_run`; both are said by
`Extends`, which relates two chips by the list of what has been created between them. The clause
about the table is for chips of fewer than `idLimit` names, because only there a search is known to
end at a free name. Names are numbered by 32-bit words, so this leaves out nothing but a table that
is full to the last number. The clauses about nets and instances need no bound.
-/

namespace Netlist

/-- Something that a call has added to a chip. -/
inductive Creation where
  | net (name : String)
  | instance (name : String)
deriving DecidableEq, Repr

namespace Creation

/-- The names it takes in the module. -/
def names : Creation → List String
  | net name => handshake name
  | «instance» name => [name]

/-- The name of a created net. -/
def netName? : Creation → Option String
  | net name => some name
  | «instance» _ => none

/-- The name of a created instance. -/
def instanceName? : Creation → Option String
  | net _ => none
  | «instance» name => some name

end Creation

namespace Chip

/-- What a call adds if it is not refused: a net under the name that the caller has chosen or under
the next automatic one, or an instance under the next automatic name. -/
def creationOf (c : Chip) : Call → Creation
  | .createWire => .net c.nextWireName
  | .createInternal name | .createBoundaryInput name | .createBoundaryOutput name => .net name
  | .instantiate d _ _ | .instantiateByName d _ => .instance (c.nextInstanceName d)

/-- **The successful creations of a run**, in order. -/
def creations (c : Chip) : List Call → List Creation
  | [] => []
  | k :: rest =>
    match (c.perform k).outcome with
    | .ok _ => c.creationOf k :: (c.perform k).chip.creations rest
    | .error _ => (c.perform k).chip.creations rest

/-! ### What a call and a run do to the namespace -/

/-- The second chip is the first with the listed creations added. -/
structure Extends (c : Chip) (log : List Creation) (c' : Chip) : Prop where
  grows : c.names.toList <+: c'.names.toList
  names : c'.names.size < idLimit →
    c'.names.toList = c.names.toList ++ log.flatMap Creation.names
  netNames : c'.netNames = c.netNames ++ log.filterMap Creation.netName?
  instanceNames : c'.instanceNames = c.instanceNames ++ log.filterMap Creation.instanceName?

namespace Extends

/-- Without creations nothing is added. -/
theorem nil (c : Chip) : c.Extends [] c where
  grows := List.prefix_rfl
  names _ := (List.append_nil _).symm
  netNames := (List.append_nil _).symm
  instanceNames := (List.append_nil _).symm

/-- What is added in two stretches of a run is added by the run, in this order. -/
theorem trans {c c' c'' : Chip} {log log' : List Creation} (h : c.Extends log c')
    (h' : c'.Extends log' c'') : c.Extends (log ++ log') c'' where
  grows := h.grows.trans h'.grows
  names hfew := by
    -- the table has been smaller before, so the bound held then as well
    have hbefore : c'.names.size < idLimit := h'.grows.length_le.trans_lt hfew
    rw [h'.names hfew, h.names hbefore, List.flatMap_append, List.append_assoc]
  netNames := by rw [h'.netNames, h.netNames, List.filterMap_append, List.append_assoc]
  instanceNames := by
    rw [h'.instanceNames, h.instanceNames, List.filterMap_append, List.append_assoc]

variable {c : Chip}

/-- A net is recorded with its three signals, which stand together in the table. -/
theorem withNet (h : c.Named) {name : String} (kind : NetKind)
    (hfree : c.names.size < idLimit → ∀ s ∈ handshake name, s ∉ c.names.toList) :
    c.Extends [.net name] (c.withNet name kind) where
  grows := c.names.prefix_claimAll _
  names hfew := by
    -- the bound is on the chip after the call, and freshness asks for the chip before it
    have hbefore : c.names.size < idLimit :=
      (c.names.prefix_claimAll (handshake name)).length_le.trans_lt hfew
    exact NameTable.toList_claimAll_of_free (nodup_handshake name) (hfree hbefore)
  netNames := netNames_withNet h name kind
  instanceNames := by
    rw [instanceNames_withNet h]
    exact (List.append_nil _).symm

/-- An instance is recorded with its one name, and its nets go by the names of before. -/
theorem withInstance (h : c.Named) {name : String} (d : Component) (inputs outputs : List NetId)
    {id : InstanceId} {ends : List NetEnd} {nets : Arena Net} (hpasses : Passes id ends c.nets nets)
    (hfree : c.names.size < idLimit → name ∉ c.names.toList) :
    c.Extends [.instance name] (c.withInstance name d inputs outputs nets) where
  grows := c.names.prefix_claim name
  names hfew := by
    have hbefore : c.names.size < idLimit := (c.names.prefix_claim name).length_le.trans_lt hfew
    exact NameTable.toList_claim_of_not_mem (hfree hbefore)
  netNames := by
    rw [netNames_withInstance h hpasses]
    exact (List.append_nil _).symm
  instanceNames := instanceNames_withInstance h name d inputs outputs nets

end Extends

/-- A step whose answer is read in another way succeeds when the step does. -/
theorem Step.outcome_of_map {α β : Type} {s : Step α} {f : α → β} {b : β}
    (h : (s.map f).outcome = .ok b) : ∃ a, s.outcome = .ok a := by
  cases hs : s.outcome with
  | error e =>
    rw [Step.map, hs] at h
    cases h
  | ok a => exact ⟨a, rfl⟩

section Calls

variable {c : Chip}

/-- A net that has been created under a chosen name is recorded under it. -/
theorem extends_createNet (h : c.Named) {name : String} {kind : NetKind} {id : NetId}
    (hok : (c.createNet name kind).outcome = .ok id) :
    c.Extends [.net name] (c.createNet name kind).chip := by
  obtain ⟨hchip, -, hfree⟩ := createNet_of_ok hok
  rw [hchip]
  exact .withNet h kind fun _ => hfree

/-- An instance that has been added is recorded under the name that the search has found. -/
theorem extends_instantiate (h : c.Named) {d : Component} {inputs outputs : List NetId}
    {id : InstanceId} (hok : (c.instantiate d inputs outputs).outcome = .ok id) :
    c.Extends [.instance (c.nextInstanceName d)] (c.instantiate d inputs outputs).chip := by
  obtain ⟨-, nets, hpasses, hchip⟩ := instantiate_of_ok hok
  rw [hchip]
  exact .withInstance h d inputs outputs hpasses (nextInstanceName_free d)

/-- **A call that is not refused adds what it is to create**, and nothing else is named. -/
theorem extends_perform (h : c.Named) {k : Call} {issued : Issued}
    (hok : (c.perform k).outcome = .ok issued) :
    c.Extends [c.creationOf k] (c.perform k).chip := by
  cases k with
  | createWire => exact .withNet h .internal nextWireName_free
  | createInternal name | createBoundaryInput name | createBoundaryOutput name =>
    obtain ⟨id, hid⟩ := Step.outcome_of_map hok
    exact extends_createNet h hid
  | instantiate d inputs outputs =>
    obtain ⟨id, hid⟩ := Step.outcome_of_map hok
    exact extends_instantiate h hid
  | instantiateByName d connections =>
    obtain ⟨id, hid⟩ := Step.outcome_of_map hok
    -- once the ports have their nets, a call by name is a call by position
    obtain ⟨inputs, outputs, -, heq⟩ := instantiateByName_of_ok hid
    rw [heq] at hid
    change c.Extends _ (c.instantiateByName d connections).chip
    rw [heq]
    exact extends_instantiate h hid

/-- **A run adds its successful creations**, in their order, and nothing else. -/
theorem extends_run (h : c.Reachable) (calls : List Call) :
    c.Extends (c.creations calls) (c.run calls) := by
  -- from the first call on: the record of the rest starts at the chip that it leaves
  induction calls generalizing c with
  | nil => exact .nil c
  | cons k calls ih =>
    have hrest := ih (h.call k)
    rw [creations]
    cases hk : (c.perform k).outcome with
    | ok issued => exact (extends_perform h.named hk).trans hrest
    | error e =>
      -- a refused call is not recorded, and has changed nothing
      change c.Extends ((c.perform k).chip.creations calls) ((c.perform k).chip.run calls)
      rw [(c.perform_allOrNothing k).chip_eq hk] at hrest ⊢
      exact hrest

end Calls

/-! ### The record of a run -/

/-- **The namespace of a chip is a record of creations**: the names of the record in their order,
all different, and behind every number of a net or instance the name it was created under. -/
structure Records (c : Chip) (log : List Creation) : Prop where
  table : c.names.toList = log.flatMap Creation.names
  nodup : (log.flatMap Creation.names).Nodup
  size_eq : c.names.size = 3 * c.netCount + c.instanceCount
  nets : (c.nets.toList.map fun n => c.names.resolve? n.name) =
    (log.filterMap Creation.netName?).map some
  instances : (c.instances.toList.map fun i => c.names.resolve? i.name) =
    (log.filterMap Creation.instanceName?).map some

/-- Every net takes three names. -/
theorem length_flatMap_handshake (names : List String) :
    (names.flatMap handshake).length = 3 * names.length := by
  induction names with
  | nil => rfl
  | cons name names ih =>
    rw [List.flatMap_cons, List.length_append, ih, length_handshake, List.length_cons]
    omega

/-- The size of the table is what the nets and instances need. -/
theorem Separate.size_eq {c : Chip} (h : c.Separate) :
    c.names.size = 3 * c.netCount + c.instanceCount := by
  -- the table lists the same names as the nets and instances, so it is as long
  have hlength := h.perm.length_eq
  rw [List.length_append, length_flatMap_handshake] at hlength
  simpa [netNames, instanceNames, NameTable.size, netCount, instanceCount, Arena.size] using hlength

/-- Every net has a name behind its number. -/
theorem Named.resolve?_nets {c : Chip} (h : c.Named) :
    (c.nets.toList.map fun n => c.names.resolve? n.name) = c.netNames.map some := by
  rw [netNames, List.map_map]
  exact List.map_congr_left fun n hn => NameTable.resolve?_eq_some (h.net n hn)

/-- So has every instance. -/
theorem Named.resolve?_instances {c : Chip} (h : c.Named) :
    (c.instances.toList.map fun i => c.names.resolve? i.name) = c.instanceNames.map some := by
  rw [instanceNames, List.map_map]
  exact List.map_congr_left fun i hi => NameTable.resolve?_eq_some (h.inst i hi)

/-- **The table of a run is the record of the run.** From an empty chip, after any calls with any
arguments, the names in the order of their numbers are those of the successful creations in their
order: the three signals of every net and the name of every instance. They all differ, and each net
and each instance is numbered to the name it was created under. -/
theorem run_namespace {name : String} {c₀ : Chip} (hnew : Chip.new name = .ok c₀)
    (calls : List Call) (hfew : (c₀.run calls).names.size < idLimit) :
    (c₀.run calls).Records (c₀.creations calls) := by
  have hreachable : (c₀.run calls).Reachable := (Reachable.new hnew).run calls
  have hnamed := hreachable.named
  have hseparate := hreachable.separate hfew
  have hrun := extends_run (.new hnew) calls
  obtain ⟨-, rfl⟩ := new_eq_ok hnew
  -- the empty chip has no names that could stand in front of those of the run
  have htable : (Chip.run _ calls).names.toList = (Chip.creations _ calls).flatMap Creation.names :=
    hrun.names hfew
  have hnets : (Chip.run _ calls).netNames = (Chip.creations _ calls).filterMap Creation.netName? :=
    hrun.netNames
  have hinstances : (Chip.run _ calls).instanceNames =
      (Chip.creations _ calls).filterMap Creation.instanceName? := hrun.instanceNames
  exact {
    table := htable
    nodup := htable ▸ hseparate.nodup
    size_eq := hseparate.size_eq
    nets := by rw [hnamed.resolve?_nets, hnets]
    instances := by rw [hnamed.resolve?_instances, hinstances] }

/-- Calls that crowd one another: a strobe's name is refused to a net, an acknowledge's name is
chosen for one and drives an automatic wire to a suffix, a net takes the name of the instance to
come, and an instance is rolled back before it is added. -/
def crowdedCalls : List Call :=
  [.createBoundaryInput "a", .createInternal "a_stb", .createInternal "wire_2_ack", .createWire,
    .createBoundaryOutput "inst_0_Mixer", .createBoundaryOutput "z",
    .instantiate mixer [⟨0⟩, ⟨2⟩] [⟨2⟩, ⟨0⟩], .instantiate mixer [⟨0⟩, ⟨2⟩] [⟨2⟩, ⟨4⟩]]

/-- The crowded calls leave sixteen names: the refused net and the instance that was rolled back are
not among them. -/
theorem run_namespace_crowded :
    Chip.new "mix" = .ok ⟨"mix", .empty, .empty, .empty⟩ ∧
      (Chip.run ⟨"mix", .empty, .empty, .empty⟩ crowdedCalls).names.size < idLimit ∧
      (Chip.run ⟨"mix", .empty, .empty, .empty⟩ crowdedCalls).names.toList =
        ["a", "a_stb", "a_ack", "wire_2_ack", "wire_2_ack_stb", "wire_2_ack_ack", "wire_2_1",
          "wire_2_1_stb", "wire_2_1_ack", "inst_0_Mixer", "inst_0_Mixer_stb", "inst_0_Mixer_ack",
          "z", "z_stb", "z_ack", "inst_0_Mixer_1"] := by
  have hnew : Chip.new "mix" = .ok ⟨"mix", .empty, .empty, .empty⟩ := rfl
  have hfew : (Chip.run ⟨"mix", .empty, .empty, .empty⟩ crowdedCalls).names.size < idLimit := by
    decide
  exact ⟨hnew, hfew, (run_namespace hnew crowdedCalls hfew).table⟩

end Chip

end Netlist
