import Netlist.Chip.Violation
import Netlist.Proofs.Chip.Acceptance
import Netlist.Proofs.Chip.Namespace
import Netlist.Proofs.Chip.Wiring

/-!
# Designs: chips without their numbers

Nets and instances are numbered in the order of their creation, so two chips that were built in
different orders are never equal. A `Design` is what is left of a chip when nets are called by their
names and instances are not called at all.

A chip whose nets have names of their own, found in the name table where they stand, is `Legible`.
Of a legible chip the design tells everything that the order of creation cannot change:

* who may take an end: an end is open when the outside does not hold it and no placement names it
  (`Legible.isOpen_iff`), so it is the design that decides whether an instance is added
  (`Legible.feasible_iff`);
* what is incomplete: the violations, without the numbers of their nets, are those of the design
  (`Legible.violations_eq`).

Growing adds a net or a placement to the design (`design_withNet`, `design_withInstance`).
-/

namespace Netlist

/-- An instance without its numbers: the nets at its ports are called by their names. -/
structure Placement where
  component : Component
  inputs : List String
  outputs : List String
deriving DecidableEq, Repr

/-- The ends of nets that it occupies. -/
def Placement.ends (p : Placement) : List (String × Slot) :=
  p.inputs.map (·, .load) ++ p.outputs.map (·, .driver)

/-- **A chip without its numbers.** -/
structure Design where
  /-- The nets by name and kind. -/
  nets : List (String × NetKind)
  placements : List Placement
deriving DecidableEq, Repr

namespace Design

/-- The ends that are held by instances. -/
def ends (ds : Design) : List (String × Slot) :=
  ds.placements.flatMap Placement.ends

/-- The ends of a net that nobody holds, driver first. -/
def missing (ds : Design) (net : String × NetKind) : List Slot :=
  Slot.all.filter fun s => net.2.outerEnd? ≠ some s ∧ (net.1, s) ∉ ds.ends

/-- The incomplete nets by name and kind, each with the ends it lacks. -/
def incomplete (ds : Design) : List (String × NetKind × List Slot) :=
  (ds.nets.map fun net => (net.1, net.2, ds.missing net)).filter fun x => !x.2.2.isEmpty

/-- The end belongs to a net, lies inside the chip and is held by no instance. -/
def IsFree (ds : Design) (e : String × Slot) : Prop :=
  (∃ kind : NetKind, (e.1, kind) ∈ ds.nets ∧ kind.outerEnd? ≠ some e.2) ∧ e ∉ ds.ends

/-- An instance can be placed like this. -/
structure Accepts (ds : Design) (p : Placement) : Prop where
  arity : (p.inputs.length, p.outputs.length) = p.component.arity
  name : IsIdentifier p.component.name
  /-- No end is taken twice. -/
  nodup : p.ends.Nodup
  free : ∀ e ∈ p.ends, ds.IsFree e

end Design

/-- What is said of an incomplete net without its number. -/
def Violation.content (v : Violation) : String × NetKind × List Slot :=
  (v.net, v.kind, v.missing)

namespace Chip

/-- An instance, its nets called by their names. -/
def placementOf (c : Chip) (i : Instance) : Placement where
  component := i.component
  inputs := i.inputs.map c.netName
  outputs := i.outputs.map c.netName

/-- **The design of a chip.** -/
def design (c : Chip) : Design where
  nets := c.nets.toList.map fun n => (c.nameOf n, n.kind)
  placements := c.instances.toList.map c.placementOf

/-- The nets of a design are the names and the kinds of the nets, side by side. -/
theorem design_nets (c : Chip) : c.design.nets = c.netNames.zip (c.nets.toList.map Net.kind) :=
  List.zip_map'.symm

/-! ### Growing designs -/

section Growing

variable {c : Chip}

/-- A net that was there goes by the same name when another is added. -/
theorem netName_withNet (h : c.Named) (name : String) (kind : NetKind) {id : NetId}
    (hid : id.index < c.nets.size) : (c.withNet name kind).netName id = c.netName id := by
  obtain ⟨n, hn⟩ := Arena.exists_get? hid
  have hn' : (c.withNet name kind).net? id = some n := Arena.get?_push_eq_some.2 (Or.inr hn)
  -- its number lies in the old part of the table
  rw [netName_eq hn', netName_eq (c := c) hn]
  exact NameTable.resolve_of_prefix (NameTable.prefix_claimAll ..)
    (h.net n (Arena.mem_toList_iff.2 ⟨_, hn⟩))

/-- An instance whose nets keep their names is placed as before. -/
theorem placementOf_congr {c' : Chip} {i : Instance}
    (h : ∀ s, ∀ id ∈ i.netsAt s, c'.netName id = c.netName id) :
    c'.placementOf i = c.placementOf i := by
  have hinputs : i.inputs.map c'.netName = i.inputs.map c.netName := List.map_congr_left (h .load)
  have houtputs : i.outputs.map c'.netName = i.outputs.map c.netName :=
    List.map_congr_left (h .driver)
  unfold placementOf
  rw [hinputs, houtputs]

/-- A new net is added to the design, under its name and with its kind. -/
theorem design_withNet (h : c.Named) (hw : c.Wired) (name : String) (kind : NetKind) :
    (c.withNet name kind).design = ⟨c.design.nets ++ [(name, kind)], c.design.placements⟩ := by
  have hnets : (c.withNet name kind).design.nets = c.design.nets ++ [(name, kind)] := by
    -- names and kinds grow by one each, so they stay side by side
    have hkinds : (c.withNet name kind).nets.toList.map Net.kind =
        c.nets.toList.map Net.kind ++ [kind] := by
      change (c.nets.toList ++ [Net.fresh ⟨c.nets.next⟩ (c.names.claimedId name) kind]).map _ = _
      rw [List.map_append, List.map_singleton, Net.kind_fresh]
    have hlength : c.netNames.length = (c.nets.toList.map Net.kind).length := by
      rw [netNames, List.length_map, List.length_map]
    rw [design_nets, netNames_withNet h, hkinds, List.zip_append hlength, ← design_nets]
    rfl
  have hplacements : (c.withNet name kind).design.placements = c.design.placements := by
    -- a placement names nets that were there before, and these keep their names
    refine List.map_congr_left fun i hi => placementOf_congr fun s id hid => ?_
    obtain ⟨k, hk⟩ := Arena.mem_toList_iff.1 hi
    exact netName_withNet h name kind (hw.exist hk s id hid)
  rw [← hnets, ← hplacements]

variable {id : InstanceId} {ends : List NetEnd} {nets : Arena Net} {d : Component}
  {inputs outputs : List NetId}

/-- Nets keep their names when their ends are passed. -/
theorem netName_withInstance (h : c.Named) (hpasses : Passes id ends c.nets nets) (name : String) :
    (c.withInstance name d inputs outputs nets).netName = c.netName := by
  funext netId
  cases hn : c.net? netId with
  | none =>
    -- passing ends makes no net, so there is none under this number later either
    have hn' : (c.withInstance name d inputs outputs nets).net? netId = none := by
      refine Arena.get?_eq_none_iff.2 ?_
      have hcontains := Arena.get?_eq_none_iff.1 hn
      rwa [Arena.contains, ← hpasses.size_eq] at hcontains
    rw [netName, netName, hn, hn']
    rfl
  | some n =>
    obtain ⟨n', hn', -, hname, -⟩ := hpasses.get hn
    rw [netName_eq hn, netName_eq (c := c.withInstance name d inputs outputs nets) hn', nameOf,
      hname]
    exact NameTable.resolve_of_prefix (NameTable.prefix_claim ..)
      (h.net n (Arena.mem_toList_iff.2 ⟨_, hn⟩))

/-- A new instance is placed at nets called by the names that they have had. -/
theorem design_withInstance (h : c.Named) (hpasses : Passes id ends c.nets nets) (name : String)
    (d : Component) (inputs outputs : List NetId) :
    (c.withInstance name d inputs outputs nets).design =
      ⟨c.design.nets,
        c.design.placements ++ [⟨d, inputs.map c.netName, outputs.map c.netName⟩]⟩ := by
  have hnets : (c.withInstance name d inputs outputs nets).design.nets = c.design.nets := by
    -- ends are passed, kinds are not changed
    have hkinds : nets.toList.map Net.kind = c.nets.toList.map Net.kind :=
      hpasses.map_eq fun _ _ _ hkind => hkind
    rw [design_nets, netNames_withInstance h hpasses, design_nets, ← hkinds]
    rfl
  have hplacements : (c.withInstance name d inputs outputs nets).design.placements =
      c.design.placements ++ [⟨d, inputs.map c.netName, outputs.map c.netName⟩] := by
    change (c.instances.toList ++ [_]).map _ = _
    unfold placementOf
    rw [netName_withInstance h hpasses, List.map_append]
    rfl
  rw [← hnets, ← hplacements]

end Growing

/-! ### Reading a chip through its design -/

/-- **The nets of the chip are told apart by their names**, and a net is found under its name. -/
structure Legible (c : Chip) : Prop where
  named : c.Named
  wired : c.Wired
  found : ∀ n ∈ c.nets.toList, c.names.get? (c.nameOf n) = some n.name
  nodup : c.netNames.Nodup

/-- Where nothing is named twice, nets are told apart by their names. -/
theorem Separate.legible {c : Chip} (h : c.Separate) (hn : c.Named) (hw : c.Wired) : c.Legible where
  named := hn
  wired := hw
  found n hmem := NameTable.get?_resolve h.nodup (hn.net n hmem)
  nodup := by
    have hsignals := (List.nodup_append.1 (h.perm.nodup_iff.1 h.nodup)).1
    -- two nets of one name would share their signals
    refine (List.nodup_flatMap.1 hsignals).2.imp fun {x y} hdisjoint heq => ?_
    exact hdisjoint (mem_handshake.2 (Or.inl rfl)) (heq ▸ mem_handshake.2 (Or.inl rfl))

/-- An instance takes a name and some ends; the nets are found as before. -/
theorem Legible.withInstance {c : Chip} (h : c.Legible) {name : String} {d : Component}
    {inputs outputs : List NetId} {nets : Arena Net} (valid : IsIdentifier name)
    (hfeasible : c.Feasible d inputs outputs)
    (hpasses : Passes ⟨c.instances.next⟩ (endsOf inputs outputs) c.nets nets) :
    (c.withInstance name d inputs outputs nets).Legible where
  named := h.named.withInstance valid hfeasible.admissible hpasses
  wired := h.wired.withInstance hfeasible.admissible hpasses hfeasible.nodup hfeasible.isOpen
  found n' hn' := by
    obtain ⟨k, hk⟩ := Arena.mem_toList_iff.1 hn'
    obtain ⟨n, hn, -, hname, -⟩ := hpasses.get_back hk
    have hmem : n ∈ c.nets.toList := Arena.mem_toList_iff.2 ⟨k, hn⟩
    have hprefix := c.names.prefix_claim name
    -- the net is the one in the same place from before, with the number of its name unchanged
    have hold : (c.withInstance name d inputs outputs nets).nameOf n' = c.nameOf n := by
      rw [nameOf, hname]
      exact NameTable.resolve_of_prefix hprefix (h.named.net n hmem)
    rw [hold, hname]
    exact NameTable.get?_of_prefix hprefix (h.found n hmem)
  nodup := by
    rw [netNames_withInstance h.named hpasses]
    exact h.nodup

section Reading

variable {c : Chip}

/-- Nets of one name are one net. -/
theorem Legible.eq_of_nameOf_eq (h : c.Legible) {j k : Nat} {n m : Net}
    (hj : c.nets.get? j = some n) (hk : c.nets.get? k = some m)
    (heq : c.nameOf n = c.nameOf m) : j = k := by
  have hlt : j < c.netNames.length := by
    rw [netNames, List.length_map]
    exact Arena.lt_size_of_get? hj
  -- both stand in the row of names, in which no name comes twice
  refine (List.getElem?_inj hlt h.nodup).1 ?_
  have hj' : c.nets.toList[j]? = some n := hj
  have hk' : c.nets.toList[k]? = some m := hk
  rw [netNames, List.getElem?_map, List.getElem?_map, hj', hk', Option.map_some, Option.map_some,
    heq]

/-- **A name finds the net that is called so.** -/
theorem Legible.findNet?_eq_some_iff (h : c.Legible) {name : String} {id : NetId} :
    c.findNet? name = some id ↔ ∃ n, c.net? id = some n ∧ c.nameOf n = name := by
  constructor
  · intro hfound
    obtain ⟨ident, hident, hfound⟩ := Option.bind_eq_some_iff.1 hfound
    obtain ⟨n, hn, hid⟩ := Option.bind_eq_some_iff.1 hfound
    obtain ⟨k, hk⟩ := Arena.mem_toList_iff.1 (List.mem_of_find?_eq_some hn)
    -- the number that is found belongs to the name that was asked for
    have hident' : n.name = ident := by simpa using List.find?_some hn
    subst hident'
    obtain rfl : n.id = id := Option.some.inj hid
    rw [h.wired.net_id hk]
    exact ⟨n, hk, NameTable.resolve_of_get? hident⟩
  · rintro ⟨n, hn, rfl⟩
    have hmem : n ∈ c.nets.toList := Arena.mem_toList_iff.2 ⟨_, hn⟩
    have hsome : (c.nets.toList.find? fun m => m.name == n.name).isSome = true :=
      List.find?_isSome.2 ⟨n, hmem, beq_self_eq_true _⟩
    obtain ⟨m, hm⟩ := Option.isSome_iff_exists.1 hsome
    -- the search ends at a net of the same name, so at the same net
    obtain ⟨k, hk⟩ := Arena.mem_toList_iff.1 (List.mem_of_find?_eq_some hm)
    have hname : m.name = n.name := by simpa using List.find?_some hm
    have hplace : k = id.index := h.eq_of_nameOf_eq hk hn (congrArg c.names.resolve hname)
    refine Option.bind_eq_some_iff.2 ⟨n.name, h.found n hmem, ?_⟩
    refine Option.bind_eq_some_iff.2 ⟨m, hm, ?_⟩
    rw [h.wired.net_id hk, hplace]
    rfl

/-- A net keeps one kind. -/
theorem Legible.mem_nets_iff (h : c.Legible) {id : NetId} {n : Net} (hn : c.net? id = some n)
    {kind : NetKind} : (c.nameOf n, kind) ∈ c.design.nets ↔ n.kind = kind := by
  constructor
  · intro hmem
    obtain ⟨m, hm, heq⟩ := List.mem_map.1 hmem
    obtain ⟨hname, hkind⟩ := Prod.mk.inj heq
    obtain ⟨k, hk⟩ := Arena.mem_toList_iff.1 hm
    obtain rfl := h.eq_of_nameOf_eq hk hn hname
    obtain rfl : m = n := Option.some.inj (hk.symm.trans hn)
    exact hkind
  · rintro rfl
    exact List.mem_map_of_mem (Arena.mem_toList_iff.2 ⟨_, hn⟩)

/-- The ends that a placement takes are those of its nets, by their names. -/
theorem mem_ends_placementOf {i : Instance} {name : String} {s : Slot} :
    (name, s) ∈ (c.placementOf i).ends ↔ ∃ id ∈ i.netsAt s, c.netName id = name := by
  cases s <;> simp [Placement.ends, placementOf, Instance.netsAt]

/-- The ends that the placements name are those that instances hold. -/
theorem Legible.mem_ends_iff (h : c.Legible) {id : NetId} {n : Net} (hn : c.net? id = some n)
    {s : Slot} : (c.nameOf n, s) ∈ c.design.ends ↔ ∃ i, n.endpoint s = some (.instance i) := by
  rw [Design.ends, List.mem_flatMap]
  constructor
  · rintro ⟨p, hp, hmem⟩
    obtain ⟨i, hi, rfl⟩ := List.mem_map.1 hp
    obtain ⟨j, hj⟩ := Arena.mem_toList_iff.1 hi
    obtain ⟨id', hid', hname⟩ := mem_ends_placementOf.1 hmem
    -- the net of the placement and the net in question have one name
    obtain ⟨n', hn'⟩ := h.wired.exists_net hj hid'
    rw [netName_eq hn'] at hname
    obtain rfl : id' = id := NetId.ext (h.eq_of_nameOf_eq hn' hn hname)
    exact ⟨⟨j⟩, (h.wired.holder_iff hn s j).2 ⟨i, hj, hid'⟩⟩
  · rintro ⟨⟨j⟩, hend⟩
    obtain ⟨i, hj, hid⟩ := (h.wired.holder_iff hn s j).1 hend
    exact ⟨_, List.mem_map_of_mem (Arena.mem_toList_iff.2 ⟨j, hj⟩),
      mem_ends_placementOf.2 ⟨id, hid, netName_eq hn⟩⟩

/-- Nobody holds an end exactly if neither the outside nor a placement does. -/
theorem Legible.endpoint_eq_none_iff (h : c.Legible) {id : NetId} {n : Net}
    (hn : c.net? id = some n) {s : Slot} :
    n.endpoint s = none ↔ n.kind.outerEnd? ≠ some s ∧ (c.nameOf n, s) ∉ c.design.ends := by
  rw [h.mem_ends_iff hn, Ne, ← Net.endpoint_eq_external_iff]
  cases n.endpoint s with
  | none => simp
  | some holder => cases holder <;> simp

/-- Open ends are the free ends of the design. -/
theorem Legible.isOpen_iff (h : c.Legible) {e : NetEnd} (he : e.net.index < c.nets.size) :
    IsOpen c.nets e ↔ c.design.IsFree (c.netName e.net, e.slot) := by
  obtain ⟨n, hn⟩ := Arena.exists_get? he
  -- the net is there, so only its end is in question
  have hopen : IsOpen c.nets e ↔ n.endpoint e.slot = none := by
    refine ⟨?_, fun hnone => ⟨n, hn, hnone⟩⟩
    rintro ⟨m, hm, hnone⟩
    obtain rfl : m = n := Option.some.inj (hm.symm.trans hn)
    exact hnone
  rw [hopen, h.endpoint_eq_none_iff hn, netName_eq hn, Design.IsFree]
  refine and_congr_left' ?_
  simp only [h.mem_nets_iff hn, exists_eq_left']

/-- The ends of a placement are those of the request, with names for numbers. -/
theorem ends_map (d : Component) (inputs outputs : List NetId) :
    Placement.ends ⟨d, inputs.map c.netName, outputs.map c.netName⟩ =
      (endsOf inputs outputs).map fun e => (c.netName e.net, e.slot) := by
  rw [Placement.ends, endsOf, List.map_append, List.map_map, List.map_map, List.map_map,
    List.map_map]
  rfl

/-- **The design decides whether an instance is added.** -/
theorem Legible.feasible_iff (h : c.Legible) {d : Component} {inputs outputs : List NetId} :
    c.Feasible d inputs outputs ↔ (∀ id ∈ inputs ++ outputs, id.index < c.nets.size) ∧
      c.design.Accepts ⟨d, inputs.map c.netName, outputs.map c.netName⟩ := by
  constructor
  · intro hf
    have hnets := hf.admissible.nets
    refine ⟨hnets, ?_, hf.admissible.name, ?_, ?_⟩
    · rw [List.length_map, List.length_map]
      exact hf.admissible.arity
    · -- different ends have different names, because nets have
      rw [ends_map]
      refine hf.nodup.map_on fun e he e' he' heq => ?_
      obtain ⟨n, hn⟩ := Arena.exists_get? (hnets _ (net_mem_of_mem_endsOf he))
      obtain ⟨n', hn'⟩ := Arena.exists_get? (hnets _ (net_mem_of_mem_endsOf he'))
      obtain ⟨hname, hslot⟩ := Prod.mk.inj heq
      rw [netName_eq hn, netName_eq hn'] at hname
      obtain ⟨id, s⟩ := e
      obtain ⟨id', s'⟩ := e'
      obtain rfl : id = id' := NetId.ext (h.eq_of_nameOf_eq hn hn' hname)
      obtain rfl : s = s' := hslot
      rfl
    · rw [ends_map]
      intro x hx
      obtain ⟨e, he, rfl⟩ := List.mem_map.1 hx
      exact (h.isOpen_iff (hnets _ (net_mem_of_mem_endsOf he))).1 (hf.isOpen e he)
  · rintro ⟨hnets, haccepts⟩
    have harity := haccepts.arity
    have hnodup := haccepts.nodup
    have hfree := haccepts.free
    rw [List.length_map, List.length_map] at harity
    rw [ends_map] at hnodup hfree
    -- different names are those of different ends, and free ones those of open ends
    refine ⟨⟨harity, haccepts.name, hnets⟩, List.Nodup.of_map _ hnodup, fun e he => ?_⟩
    exact (h.isOpen_iff (hnets _ (net_mem_of_mem_endsOf he))).2 (hfree _ (List.mem_map_of_mem he))

/-- The design tells what a net lacks. -/
theorem Legible.missingSlots_eq (h : c.Legible) {n : Net} (hn : n ∈ c.nets.toList) :
    n.missingSlots = c.design.missing (c.nameOf n, n.kind) := by
  obtain ⟨k, hk⟩ := Arena.mem_toList_iff.1 hn
  have hnet : c.net? ⟨k⟩ = some n := hk
  refine List.filter_congr fun s _ => ?_
  rw [Bool.eq_iff_iff, decide_eq_true_iff, ← h.endpoint_eq_none_iff hnet,
    Option.isNone_iff_eq_none]

/-- **The design tells what is incomplete.** -/
theorem Legible.violations_eq (h : c.Legible) :
    c.violations.map Violation.content = c.design.incomplete := by
  calc
    c.violations.map Violation.content =
        (c.nets.toList.filter fun n => !n.isComplete).map
          fun n => (c.nameOf n, n.kind, n.missingSlots) := List.map_map
    _ = (c.nets.toList.map fun n => (c.nameOf n, n.kind, n.missingSlots)).filter
          fun x => !x.2.2.isEmpty := by
        -- a net is left out on the left if it is complete, on the right if it lacks nothing
        rw [List.filter_map]
        refine congrArg _ (List.filter_congr fun n _ => congrArg not ?_)
        rw [Bool.eq_iff_iff, Net.isComplete_iff]
        exact List.isEmpty_iff.symm
    _ = c.design.incomplete := by
        unfold Design.incomplete
        rw [show c.design.nets = c.nets.toList.map fun n => (c.nameOf n, n.kind) from rfl,
          List.map_map]
        refine congrArg _ (List.map_congr_left fun n hn => ?_)
        rw [h.missingSlots_eq hn]
        rfl

end Reading

end Chip

end Netlist
