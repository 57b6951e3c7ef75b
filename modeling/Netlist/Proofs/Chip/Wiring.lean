import Netlist.Proofs.Chip.Growth

/-!
# Slots and instances describe one graph

A chip keeps its wiring twice: every net knows who holds its ends, every instance knows the nets
of its ports. `Wired` is the invariant that the two agree, said for both ends of a net at once by
way of `Instance.netsAt`: an instance holds an end of a net exactly when the net is among those of
the instance's ports of that side.

Both ways for a chip to grow keep it (`Wired.grows`). A new net has no instance at its ends, and no
instance can have its number yet. A new instance gets ends that were open, so the agreement for the
old instances is untouched at those ends, and elsewhere nothing changes; its own number is new, so
no net names it anywhere else.

`Reachable.graphAgrees` unfolds the invariant into what it means for a reachable chip. No bound on
the size of the chip is needed for any of it.
-/

namespace Netlist

/-- The nets at the ports of one side: inputs load their nets, outputs drive them. -/
def Instance.netsAt (i : Instance) : Slot → List NetId
  | .load => i.inputs
  | .driver => i.outputs

/-- The nets of an instance are those of its two sides. -/
theorem Instance.mem_connections {i : Instance} {id : NetId} :
    id ∈ i.connections ↔ ∃ s, id ∈ i.netsAt s := by
  rw [Instance.connections, List.mem_append]
  constructor
  · rintro (h | h)
    · exact ⟨.load, h⟩
    · exact ⟨.driver, h⟩
  · rintro ⟨s, h⟩
    cases s with
    | load => exact Or.inl h
    | driver => exact Or.inr h

namespace Chip

/-- The ends that an instance binds, side by side. -/
theorem mem_endsOf_netsAt {i : Instance} {id : NetId} {s : Slot} :
    (⟨id, s⟩ : NetEnd) ∈ endsOf i.inputs i.outputs ↔ id ∈ i.netsAt s := by
  rw [mem_endsOf]
  cases s <;> simp [Instance.netsAt]

/-- Where no end comes twice, no net comes twice on one side. -/
theorem nodup_netsAt_of_nodup_endsOf {i : Instance} (h : (endsOf i.inputs i.outputs).Nodup)
    (s : Slot) : (i.netsAt s).Nodup := by
  obtain ⟨hloads, hdrivers, -⟩ := List.nodup_append.1 h
  cases s with
  | load => exact List.Nodup.of_map _ hloads
  | driver => exact List.Nodup.of_map _ hdrivers

/-- **The invariant of the wiring**: numbers are positions, every instance has nets of the chip for
its ports, each once on a side, and the ends of the nets name exactly these instances. -/
structure Wired (c : Chip) : Prop where
  net_id : ∀ {k n}, c.nets.get? k = some n → n.id = ⟨k⟩
  instance_id : ∀ {k i}, c.instances.get? k = some i → i.id = ⟨k⟩
  arity : ∀ {k i}, c.instances.get? k = some i →
    (i.inputs.length, i.outputs.length) = i.component.arity
  exist : ∀ {k i}, c.instances.get? k = some i → ∀ s, ∀ id ∈ i.netsAt s, id.index < c.nets.size
  nodup : ∀ {k i}, c.instances.get? k = some i → ∀ s, (i.netsAt s).Nodup
  holder_iff : ∀ {k n}, c.nets.get? k = some n → ∀ s j, n.endpoint s = some (.instance ⟨j⟩) ↔
    ∃ i, c.instances.get? j = some i ∧ ⟨k⟩ ∈ i.netsAt s

/-! ### The invariant holds -/

/-- An empty chip has nothing that could be wired wrongly. -/
theorem Wired.empty (name : String) : Wired ⟨name, .empty, .empty, .empty⟩ := by
  constructor
  case net_id | holder_iff =>
    intro k n hk
    rw [Arena.get?_empty] at hk
    cases hk
  case instance_id | arity | exist | nodup =>
    intro k i hk
    rw [Arena.get?_empty] at hk
    cases hk

/-- A fresh net has no instance at its ends. -/
theorem endpoint_fresh_ne (id : NetId) (name : Ident) (kind : NetKind) (s : Slot)
    (i : InstanceId) : (Net.fresh id name kind).endpoint s ≠ some (.instance i) := by
  cases kind <;> cases s <;> exact nofun

/-- A new net disturbs nothing: no instance can name it yet. -/
theorem Wired.withNet {c : Chip} (h : c.Wired) (name : String) (kind : NetKind) :
    (c.withNet name kind).Wired := by
  have hnets : ∀ {k n}, (c.withNet name kind).nets.get? k = some n →
      (k = c.nets.size ∧ n = .fresh ⟨c.nets.size⟩ (c.names.claimedId name) kind) ∨
        c.nets.get? k = some n := fun hk => Arena.get?_push_eq_some.1 hk
  refine ⟨fun hk => ?_, h.instance_id, h.arity, fun hk s id hid => ?_, h.nodup,
    fun {k n} hk s j => ?_⟩
  · -- the new net carries the number of its place
    rcases hnets hk with ⟨rfl, rfl⟩ | hk
    · rfl
    · exact h.net_id hk
  · -- the old instances are connected to old nets
    change id.index < (c.nets.push _).size
    rw [Arena.size_push]
    exact (h.exist hk s id hid).trans (Nat.lt_succ_self _)
  · -- the two descriptions agree
    rcases hnets hk with ⟨rfl, rfl⟩ | hk
    · -- nobody holds an end of the new net, and no instance can know its number
      refine ⟨fun hend => (endpoint_fresh_ne _ _ _ _ _ hend).elim, ?_⟩
      rintro ⟨i, hi, hmem⟩
      exact absurd (h.exist hi s _ hmem) (Nat.lt_irrefl _)
    · exact h.holder_iff hk s j

/-- A new instance holds exactly the ends that have been passed to it, and these were open. -/
theorem Wired.withInstance {c : Chip} (h : c.Wired) {name : String} {d : Component}
    {inputs outputs : List NetId} {nets : Arena Net} (hadm : c.Admissible d inputs outputs)
    (hpasses : Passes ⟨c.instances.next⟩ (endsOf inputs outputs) c.nets nets)
    (hnodup : (endsOf inputs outputs).Nodup)
    (hopen : ∀ e ∈ endsOf inputs outputs, IsOpen c.nets e) :
    (c.withInstance name d inputs outputs nets).Wired := by
  have hinstances : ∀ {k i}, (c.withInstance name d inputs outputs nets).instances.get? k = some i →
      (k = c.instances.size ∧
        i = ⟨⟨c.instances.size⟩, c.names.claimedId name, d, inputs, outputs⟩) ∨
        c.instances.get? k = some i := fun hk => Arena.get?_push_eq_some.1 hk
  -- passing ends adds no net
  have hsize : (c.withInstance name d inputs outputs nets).nets.size = c.nets.size :=
    hpasses.size_eq
  refine ⟨fun hk => ?_, fun hk => ?_, fun hk => ?_, fun hk s id hid => ?_, fun hk s => ?_,
    fun {k n} hk s j => ?_⟩
  · -- nets keep their numbers when their ends are passed
    obtain ⟨n, hn, hid, -⟩ := hpasses.get_back hk
    exact hid.trans (h.net_id hn)
  · rcases hinstances hk with ⟨rfl, rfl⟩ | hk
    · rfl
    · exact h.instance_id hk
  · rcases hinstances hk with ⟨-, rfl⟩ | hk
    · exact hadm.arity
    · exact h.arity hk
  · -- an admissible request names nets of the chip, and none has gone away
    rw [hsize]
    rcases hinstances hk with ⟨-, rfl⟩ | hk
    · exact hadm.endsOf_exist ⟨id, s⟩ (mem_endsOf_netsAt.2 hid)
    · exact h.exist hk s id hid
  · -- an end that occurs twice in a request would have refused the second time
    rcases hinstances hk with ⟨-, rfl⟩ | hk
    · exact nodup_netsAt_of_nodup_endsOf hnodup s
    · exact h.nodup hk s
  · -- the two descriptions agree: an end has been passed to the new instance, or it is as before
    obtain ⟨m, hm, -, -, -, hends⟩ := hpasses.get_back hk
    rw [hends s]
    by_cases hmem : (⟨⟨k⟩, s⟩ : NetEnd) ∈ endsOf inputs outputs
    · rw [if_pos hmem]
      constructor
      · intro heq
        -- the holder is the new instance, and it has this number
        obtain rfl : c.instances.next = j := by simpa using heq
        exact ⟨⟨⟨c.instances.size⟩, c.names.claimedId name, d, inputs, outputs⟩,
          Arena.get?_push_eq_some.2 (Or.inl ⟨rfl, rfl⟩), mem_endsOf_netsAt.1 hmem⟩
      · rintro ⟨i, hi, hid⟩
        rcases hinstances hi with ⟨rfl, -⟩ | hi
        · rfl
        · -- an old instance cannot hold an end that was open
          obtain ⟨m', hm', hnone⟩ := hopen _ hmem
          obtain rfl : m = m' := Option.some.inj (hm.symm.trans hm')
          rw [(h.holder_iff hm s j).2 ⟨i, hi, hid⟩] at hnone
          cases hnone
    · rw [if_neg hmem, h.holder_iff hm s j]
      constructor
      · rintro ⟨i, hi, hid⟩
        exact ⟨i, Arena.get?_push_eq_some.2 (Or.inr hi), hid⟩
      · rintro ⟨i, hi, hid⟩
        rcases hinstances hi with ⟨-, rfl⟩ | hi
        · exact absurd (mem_endsOf_netsAt.2 hid) hmem
        · exact ⟨i, hi, hid⟩

/-- However a chip grows, it stays wired. -/
theorem Wired.grows {c c' : Chip} (h : c.Wired) (hg : Grows c c') : c'.Wired := by
  cases hg with
  | addsNet name kind _ _ => exact h.withNet name kind
  | addsInstance name d inputs outputs nets _ _ hadm hpasses hnodup hopen =>
    exact h.withInstance hadm hpasses hnodup hopen

/-- Reachable chips are wired. -/
theorem Reachable.wired {c : Chip} (h : c.Reachable) : c.Wired :=
  h.invariant (fun name _ => .empty name) fun _ hw hg => hw.grows hg

/-! ### What the invariant means -/

section Consequences

variable {c : Chip}

/-- The nets are numbered from zero on. -/
theorem Wired.map_id_nets (h : c.Wired) :
    c.nets.toList.map Net.id = (List.range c.nets.size).map NetId.mk := by
  refine List.ext_getElem (by simp [Arena.size]) fun k hk _ => ?_
  rw [List.length_map] at hk
  have hn : c.nets.get? k = some c.nets.toList[k] := List.getElem?_eq_getElem hk
  rw [List.getElem_map, h.net_id hn, List.getElem_map, List.getElem_range]

/-- A net is found under the number it carries. -/
theorem Wired.net?_id (h : c.Wired) {n : Net} (hn : n ∈ c.nets.toList) :
    c.net? n.id = some n := by
  obtain ⟨k, hk⟩ := Arena.mem_toList_iff.1 hn
  rw [h.net_id hk]
  exact hk

/-- The nets of an instance are nets of the chip. -/
theorem Wired.exists_net (h : c.Wired) {k : Nat} {i : Instance} (hi : c.instances.get? k = some i)
    {s : Slot} {id : NetId} (hid : id ∈ i.netsAt s) : ∃ n, c.net? id = some n :=
  Arena.exists_get? (h.exist hi s id hid)

/-- Two instances with a net in common on one side are one. -/
theorem Wired.eq_of_mem_netsAt (h : c.Wired) {j k : Nat} {i i' : Instance}
    (hi : c.instances.get? j = some i) (hi' : c.instances.get? k = some i') {s : Slot} {id : NetId}
    (hid : id ∈ i.netsAt s) (hid' : id ∈ i'.netsAt s) : j = k := by
  obtain ⟨n, hn⟩ := h.exists_net hi hid
  -- an end has one holder, and both instances are it
  have hend := (h.holder_iff hn s j).2 ⟨i, hi, hid⟩
  have hend' := (h.holder_iff hn s k).2 ⟨i', hi', hid'⟩
  simpa using hend.symm.trans hend'

/-- The outside does not hold an end that an instance holds. -/
theorem Wired.outerEnd?_ne (h : c.Wired) {k : Nat} {i : Instance}
    (hi : c.instances.get? k = some i) {s : Slot} {id : NetId} (hid : id ∈ i.netsAt s) {n : Net}
    (hn : c.net? id = some n) : n.kind.outerEnd? ≠ some s := by
  intro houter
  rw [← Net.endpoint_eq_external_iff] at houter
  have hend := (h.holder_iff hn s k).2 ⟨i, hi, hid⟩
  rw [houter] at hend
  cases hend

/-- The nets at all ports of all instances. -/
def connections (c : Chip) : List NetId :=
  c.instances.toList.flatMap Instance.connections

/-- So are the nets of all instances. -/
theorem Wired.exists_net_of_mem_connections (h : c.Wired) {id : NetId} (hid : id ∈ c.connections) :
    ∃ n, c.net? id = some n := by
  obtain ⟨i, hi, hid⟩ := List.mem_flatMap.1 hid
  obtain ⟨k, hk⟩ := Arena.mem_toList_iff.1 hi
  obtain ⟨s, hs⟩ := Instance.mem_connections.1 hid
  exact h.exists_net hk hs

end Consequences

/-- **The slots of the nets and the lists of the instances describe the same graph.** -/
structure GraphAgrees (c : Chip) : Prop where
  /-- An instance loads a net exactly when the net is one of its inputs. -/
  load_iff : ∀ {id n}, c.net? id = some n → ∀ i, n.load = some (.instance i) ↔
    ∃ inst, c.instance? i = some inst ∧ id ∈ inst.inputs
  /-- An instance drives a net exactly when the net is one of its outputs. -/
  driver_iff : ∀ {id n}, c.net? id = some n → ∀ i, n.driver = some (.instance i) ↔
    ∃ inst, c.instance? i = some inst ∧ id ∈ inst.outputs
  arity : ∀ {i inst}, c.instance? i = some inst →
    inst.inputs.length = inst.component.inputPorts.length ∧
      inst.outputs.length = inst.component.outputPorts.length
  connections_exist : ∀ {i inst}, c.instance? i = some inst →
    ∀ id ∈ inst.connections, ∃ n, c.net? id = some n
  inputs_nodup : ∀ {i inst}, c.instance? i = some inst → inst.inputs.Nodup
  outputs_nodup : ∀ {i inst}, c.instance? i = some inst → inst.outputs.Nodup
  inputs_disjoint : ∀ {i j inst inst'}, c.instance? i = some inst → c.instance? j = some inst' →
    i ≠ j → inst.inputs.Disjoint inst'.inputs
  outputs_disjoint : ∀ {i j inst inst'}, c.instance? i = some inst → c.instance? j = some inst' →
    i ≠ j → inst.outputs.Disjoint inst'.outputs
  /-- What the outside loads is no input of an instance. -/
  inputs_kind : ∀ {i inst}, c.instance? i = some inst → ∀ id ∈ inst.inputs,
    ∀ n, c.net? id = some n → n.kind ≠ .boundaryOutput
  /-- What the outside drives is no output of an instance. -/
  outputs_kind : ∀ {i inst}, c.instance? i = some inst → ∀ id ∈ inst.outputs,
    ∀ n, c.net? id = some n → n.kind ≠ .boundaryInput
  /-- A net carries the number of its place. -/
  net_id : ∀ {id n}, c.net? id = some n → n.id = id
  instance_id : ∀ {i inst}, c.instance? i = some inst → inst.id = i

/-- **Every reachable chip describes one graph**, whatever calls have led to it. -/
theorem Reachable.graphAgrees {c : Chip} (h : c.Reachable) : c.GraphAgrees := by
  have hw := h.wired
  -- both sides by one argument: a net in common makes two instances one
  have hdisjoint : ∀ {i j inst inst'}, c.instance? i = some inst → c.instance? j = some inst' →
      i ≠ j → ∀ s, (inst.netsAt s).Disjoint (inst'.netsAt s) := by
    intro i j inst inst' hi hj hne s id hid hid'
    exact hne (InstanceId.ext (hw.eq_of_mem_netsAt hi hj hid hid'))
  exact {
    load_iff := fun hn i => hw.holder_iff hn .load i.index
    driver_iff := fun hn i => hw.holder_iff hn .driver i.index
    arity := fun hi => Prod.mk.inj (hw.arity hi)
    connections_exist := fun hi id hid => by
      obtain ⟨s, hs⟩ := Instance.mem_connections.1 hid
      exact hw.exists_net hi hs
    inputs_nodup := fun hi => hw.nodup hi .load
    outputs_nodup := fun hi => hw.nodup hi .driver
    inputs_disjoint := fun hi hj hne => hdisjoint hi hj hne .load
    outputs_disjoint := fun hi hj hne => hdisjoint hi hj hne .driver
    inputs_kind := fun hi id hid n hn hkind =>
      hw.outerEnd?_ne hi (s := .load) hid hn (hkind ▸ rfl)
    outputs_kind := fun hi id hid n hn hkind =>
      hw.outerEnd?_ne hi (s := .driver) hid hn (hkind ▸ rfl)
    net_id := fun hn => hw.net_id hn
    instance_id := fun hi => hw.instance_id hi }

/-- The wire of the looped chip is loaded and driven by one instance, which has it on both sides. -/
theorem loopChip_graphAgrees : loopChip.Reachable ∧ loopChip.GraphAgrees ∧
    ∃ inst, loopChip.instance? ⟨0⟩ = some inst ∧ ⟨2⟩ ∈ inst.inputs ∧ ⟨2⟩ ∈ inst.outputs := by
  have hgraph := Reachable.graphAgrees loopChip_reachable
  refine ⟨loopChip_reachable, hgraph, ?_⟩
  have hwire : loopChip.net? ⟨2⟩ = some ⟨⟨2⟩, ⟨6⟩, .internal (some ⟨0⟩) (some ⟨0⟩)⟩ := rfl
  obtain ⟨inst, hinst, hin⟩ := (hgraph.load_iff hwire ⟨0⟩).1 rfl
  obtain ⟨inst', hinst', hout⟩ := (hgraph.driver_iff hwire ⟨0⟩).1 rfl
  obtain rfl : inst = inst' := Option.some.inj (hinst.symm.trans hinst')
  exact ⟨inst, hinst, hin, hout⟩

end Chip

end Netlist
