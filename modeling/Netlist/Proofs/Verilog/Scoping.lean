import Netlist.Proofs.Verilog.PointToPoint

/-!
# The text of a module is well scoped

A Verilog module has one namespace for its signals and instances, and a compiler refuses a module in
which a name is declared twice, used without a declaration, or listed as a port and not declared as
one. `Source.WellScoped` says that none of this happens, of what a text says
(`Netlist.Proofs.Verilog.Source`), and `moduleText_wellScoped` proves it of the text of every
reachable chip, complete or not.

The header, the declarations and the connections are written by three loops that know nothing of one
another. What makes them agree is that all three go over the nets of the chip:

* the declared signals are those of all nets, in the order of their kinds
  (`perm_declaredSignals`), so they differ because the names in the table do;
* the ports are the signals of the boundary nets, and these are the ones whose declarations have a
  direction (`ports_source`);
* a connection leads to a net of the chip, by the invariant of the wiring.
-/

namespace Netlist

namespace Verilog

/-! ### Well-scoped sources -/

namespace Source

/-- The signals that are declared, in order. -/
def declaredSignals (s : Source) : List String :=
  s.declared.map Prod.snd

/-- **Every name is an identifier, declared once, and declared where it is used.** -/
structure WellScoped (s : Source) : Prop where
  name : IsIdentifier s.name
  components : ∀ p ∈ s.placed, IsIdentifier p.component
  instances : ∀ p ∈ s.placed, IsIdentifier p.name
  signals : ∀ x ∈ s.ports ++ s.declaredSignals ++ s.connections, IsIdentifier x
  /-- The header lists the signals with a direction, in the order of their declarations. -/
  ports : s.ports = (s.declared.filter fun d => d.1 != .wire).map Prod.snd
  declared_nodup : s.declaredSignals.Nodup
  connected : ∀ x ∈ s.connections, x ∈ s.declaredSignals
  instances_nodup : (s.placed.map Placement.name).Nodup
  instances_apart : ∀ p ∈ s.placed, p.name ∉ s.declaredSignals

end Source

/-! ### Declarations and ports -/

/-- However a net is declared, its three signals are. -/
theorem map_snd_zip_directions (kind : NetKind) (net : String) :
    ((directions kind).zip (handshake net)).map Prod.snd = handshake net := by
  cases kind <;> rfl

/-- The declared signals are those of the nets, kind by kind. -/
theorem declaredSignals_source (m : Module) :
    m.source.declaredSignals = signals (m.inputs ++ m.outputs ++ m.wires) := by
  -- without their kinds, the nets stand in the order in which the header and the wires have them
  have hkinds : m.kindedNets.map Prod.snd = m.inputs ++ m.outputs ++ m.wires := by
    simp [Module.kindedNets, Function.comp_def]
  rw [Source.declaredSignals, declared_source, List.map_flatMap, signals, ← hkinds,
    List.flatMap_map]
  exact List.flatMap_congr fun net _ => map_snd_zip_directions net.1 net.2

/-- Of the nets of one kind, the signals declared with a direction are all or none. -/
theorem directed_signals (kind : NetKind) (nets : List String) :
    (((nets.map (kind, ·)).flatMap fun net => (directions net.1).zip (handshake net.2)).filter
      fun d => d.1 != .wire).map Prod.snd = if kind = .internal then [] else signals nets := by
  rw [List.flatMap_map, List.filter_flatMap, List.map_flatMap]
  cases kind with
  | internal => exact List.flatMap_eq_nil_iff.2 fun net _ => rfl
  | boundaryInput | boundaryOutput => exact List.flatMap_congr fun net _ => rfl

/-- **The header agrees with the declarations.** -/
theorem ports_source (m : Module) :
    m.source.ports = (m.source.declared.filter fun d => d.1 != .wire).map Prod.snd := by
  -- the ports are the signals of the boundary nets, and wires have none of them
  have hports : m.source.ports = signals m.inputs ++ signals m.outputs := List.flatMap_append
  rw [hports, declared_source, Module.kindedNets, List.flatMap_append, List.flatMap_append,
    List.filter_append, List.filter_append, List.map_append, List.map_append, directed_signals,
    directed_signals, directed_signals]
  exact (List.append_nil _).symm

end Verilog

/-! ### The nets of a chip by kind -/

/-- Nets sorted by kind are the same nets. -/
theorem perm_filter_kinds (nets : List Net) :
    (nets.filter (fun n => n.kind == .boundaryInput) ++
      nets.filter (fun n => n.kind == .boundaryOutput) ++
      nets.filter (fun n => n.kind == .internal)).Perm nets := by
  induction nets with
  | nil => exact .refl []
  | cons n nets ih =>
    -- the first net comes first in the part of its kind, and the other two parts are as before
    cases hkind : n.kind <;> simp only [List.filter_cons, hkind]
    · exact List.perm_middle.trans (ih.cons n)
    · exact ih.cons n
    · exact (List.Perm.append_right _ List.perm_middle).trans (ih.cons n)

/-- Every net is of one of the three kinds, and its name is among those of its kind. -/
theorem Chip.perm_namesOfKind (c : Chip) :
    (c.namesOfKind .boundaryInput ++ c.namesOfKind .boundaryOutput ++
      c.namesOfKind .internal).Perm c.netNames := by
  have hperm := (perm_filter_kinds c.nets.toList).map c.nameOf
  rwa [List.map_append, List.map_append] at hperm

namespace Verilog

section Chips

variable {c : Chip}

/-- The declared signals are those of all nets. -/
theorem perm_declaredSignals (c : Chip) :
    (Module.ofChip c).source.declaredSignals.Perm (c.netNames.flatMap handshake) := by
  rw [declaredSignals_source]
  exact c.perm_namesOfKind.flatMap_right handshake

/-- The instances go by the names that the chip has for them. -/
theorem names_placed_source (c : Chip) :
    (Module.ofChip c).source.placed.map Placement.name = c.instanceNames := by
  rw [placed_source, List.map_map]
  exact List.map_map

/-- What is connected is declared. -/
theorem connected_source (h : c.Reachable) {x : String}
    (hx : x ∈ (Module.ofChip c).source.connections) :
    x ∈ (Module.ofChip c).source.declaredSignals := by
  rw [connections_source] at hx
  obtain ⟨id, hid, hx⟩ := List.mem_flatMap.1 hx
  -- a connection leads to a net of the chip, whose signals are declared
  obtain ⟨n, hn⟩ := h.wired.exists_net_of_mem_connections hid
  rw [Chip.netName_eq hn] at hx
  have hnet : c.nameOf n ∈ c.netNames :=
    List.mem_map_of_mem (Arena.mem_toList_iff.2 ⟨id.index, hn⟩)
  exact (perm_declaredSignals c).mem_iff.2 (List.mem_flatMap.2 ⟨_, hnet, hx⟩)

/-- Every declared signal is an identifier. -/
theorem isIdentifier_of_mem_declaredSignals (h : c.Reachable) {x : String}
    (hx : x ∈ (Module.ofChip c).source.declaredSignals) : IsIdentifier x := by
  obtain ⟨net, hnet, hx⟩ := List.mem_flatMap.1 ((perm_declaredSignals c).mem_iff.1 hx)
  obtain ⟨n, hn, rfl⟩ := List.mem_map.1 hnet
  exact isIdentifier_of_mem_handshake (h.named.table _ (h.named.nameOf_mem hn)) hx

/-- What the text of a reachable chip says is well scoped. -/
theorem wellScoped_source (h : c.Reachable) (hfew : c.names.size < idLimit) :
    (Module.ofChip c).source.WellScoped := by
  have hnames := wellNamed_ofChip h
  have hseparate := h.separate hfew
  obtain ⟨hnets, hinstances, hdisjoint⟩ :=
    List.nodup_append.1 (hseparate.perm.nodup_iff.1 hseparate.nodup)
  have hplaced : ∀ p ∈ (Module.ofChip c).source.placed,
      ∃ i ∈ (Module.ofChip c).instances, i.placement = p := fun p hp =>
    List.mem_map.1 (placed_source _ ▸ hp)
  -- the header lists some of the declared signals
  have hports : ∀ x ∈ (Module.ofChip c).source.ports,
      x ∈ (Module.ofChip c).source.declaredSignals := by
    intro x hx
    rw [ports_source] at hx
    exact (List.filter_sublist.map Prod.snd).subset hx
  exact {
    name := hnames.name
    components := fun p hp => by
      obtain ⟨i, hi, rfl⟩ := hplaced p hp
      exact hnames.component i hi
    instances := fun p hp => by
      obtain ⟨i, hi, rfl⟩ := hplaced p hp
      exact hnames.inst i hi
    signals := fun x hx => by
      refine isIdentifier_of_mem_declaredSignals h ?_
      rcases List.mem_append.1 hx with hx | hx
      · exact (List.mem_append.1 hx).elim (hports x) id
      · exact connected_source h hx
    ports := ports_source _
    declared_nodup := (perm_declaredSignals c).nodup_iff.2 hnets
    connected := fun x hx => connected_source h hx
    instances_nodup := names_placed_source c ▸ hinstances
    instances_apart := fun p hp hdeclared => by
      -- in the table the signals stand apart from the instances
      have hname : p.name ∈ c.instanceNames :=
        names_placed_source c ▸ List.mem_map_of_mem hp
      exact hdisjoint _ ((perm_declaredSignals c).mem_iff.1 hdeclared) _ hname rfl }

/-- **The text of a reachable chip is a well-scoped module**, whether or not the chip is complete.
Every name in it is an identifier; the ports are the signals declared as input or output, in the
same order; no signal is declared twice, and no signal is connected without a declaration; the
instances are named apart from each other and from the signals. The module is that of the chip: it
has its name and its instances, and what is declared are its nets by kind. Of a boundary input the
data and the strobe come in and the acknowledge goes out, of a boundary output it is the other way
round, and an internal net is three wires. -/
theorem moduleText_wellScoped (h : c.Reachable) (hfew : c.names.size < idLimit) :
    ∃ source, Source.read? (moduleText c) = some source ∧ source.WellScoped ∧
      source.name = c.name ∧
      (source.placed.map fun p => (p.component, p.name)) =
        (c.instances.toList.map fun i => (i.component.name, c.names.resolve i.name)) ∧
      source.declared =
        ((c.namesOfKind .boundaryInput).flatMap fun net =>
          [(.input, net), (.input, net ++ strobeEnding), (.output, net ++ acknowledgeEnding)]) ++
        ((c.namesOfKind .boundaryOutput).flatMap fun net =>
          [(.output, net), (.output, net ++ strobeEnding), (.input, net ++ acknowledgeEnding)]) ++
        ((c.namesOfKind .internal).flatMap fun net =>
          [(.wire, net), (.wire, net ++ strobeEnding), (.wire, net ++ acknowledgeEnding)]) := by
  refine ⟨_, Source.read?_text (wellNamed_ofChip h), wellScoped_source h hfew, rfl, ?_, ?_⟩
  · rw [placed_source, List.map_map]
    exact List.map_map
  · rw [declared_source, Module.kindedNets, List.flatMap_append, List.flatMap_append,
      List.flatMap_map, List.flatMap_map, List.flatMap_map]
    rfl

/-- In the text of the looped chip the header is read off the declarations, and the acknowledge of
the input goes out. -/
theorem moduleText_wellScoped_loopChip :
    Chip.loopChip.Reachable ∧ Chip.loopChip.names.size < idLimit ∧
      ∃ source, Source.read? (moduleText Chip.loopChip) = some source ∧ source.WellScoped ∧
        source.ports = ["a", "a_stb", "a_ack", "z", "z_stb", "z_ack"] ∧
        (.output, "a_ack") ∈ source.declared ∧ (.wire, "wire_2_ack") ∈ source.declared := by
  have hfew : Chip.loopChip.names.size < idLimit := by decide
  obtain ⟨source, hread, hscoped, -, -, hdeclared⟩ :=
    moduleText_wellScoped Chip.loopChip_reachable hfew
  refine ⟨Chip.loopChip_reachable, hfew, source, hread, hscoped, ?_, ?_, ?_⟩
  · rw [hscoped.ports, hdeclared]
    rfl
  · rw [hdeclared]
    decide
  · rw [hdeclared]
    decide

end Chips

end Verilog

end Netlist
