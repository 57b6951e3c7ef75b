import Netlist.Chip.Summary
import Netlist.Proofs.Chip.Namespace
import Netlist.Proofs.Chip.Wiring
import Netlist.Proofs.Verilog.Text
import Netlist.Verilog.Elaborate

/-!
# The text of a module can be read back

The text of a module lists signals, and three signals in a row are a net. So a source whose
declarations and connections come in handshakes is the source of a module with nets
(`Module.ofSource?`), and the directions of a declared net tell its kind. Reading a text in two
steps, first as a source and then as a module, is `Module.read?`; it undoes `Module.text` for every
module whose names are identifiers (`Module.read?_text`).

The modules of reachable chips are of this sort (`wellNamed_ofChip`). What is read is therefore all
that the emitted text depends on, which is the content of `moduleText_unambiguous`.
-/

namespace Netlist.Verilog

/-- The kind of net whose signals are declared in this way. -/
def kindOf? (ds : List Direction) : Option NetKind :=
  [.internal, .boundaryInput, .boundaryOutput].find? fun kind => directions kind == ds

/-- Reads nets from their signals, three signals at a time. -/
def nets? : List String → Option (List String)
  | [] => some []
  | s :: stb :: ack :: rest =>
    if handshake s = [s, stb, ack] then (nets? rest).map (s :: ·) else none
  | _ => none

/-- Reads nets from the declarations of their signals. -/
def declaredNets? : List (Direction × String) → Option (List (NetKind × String))
  | [] => some []
  | (d, s) :: (d', stb) :: (d'', ack) :: rest =>
    match kindOf? [d, d', d''] with
    | none => none
    | some kind =>
      if handshake s = [s, stb, ack] then (declaredNets? rest).map ((kind, s) :: ·) else none
  | _ => none

/-- Reads the nets of an instance from its signals. -/
def Placement.instantiation? (p : Placement) : Option Instantiation :=
  (nets? p.signals).map fun nets => ⟨p.component, p.name, nets⟩

/-- Among nets with their kinds, the names of those of one kind. -/
def ofKind (nets : List (NetKind × String)) (kind : NetKind) : List String :=
  (nets.filter fun net => net.1 == kind).map Prod.snd

/-- Reads a module with its nets. -/
def Module.ofSource? (s : Source) : Option Module := do
  let nets ← declaredNets? s.declared
  let instances ← s.placed.mapM Placement.instantiation?
  return {
    name := s.name
    inputs := ofKind nets .boundaryInput
    outputs := ofKind nets .boundaryOutput
    wires := ofKind nets .internal
    instances }

/-- **Reads a module with its nets from a text.** -/
def Module.read? (text : String) : Option Module :=
  (Source.read? text).bind ofSource?

/-- Reading the signals of nets three at a time gives the nets. -/
theorem nets?_signals (nets : List String) : nets? (signals nets) = some nets := by
  induction nets with
  | nil => rfl
  | cons net nets ih =>
    -- the reader compares the next three signals with those of a net called like the first
    change (if handshake net = handshake net then (nets? (signals nets)).map (net :: ·)
      else none) = _
    rw [if_pos rfl, ih, Option.map_some]

/-- The three declarations of a net are read as this net. -/
theorem declaredNets?_append (kind : NetKind) (net : String) (rest : List (Direction × String)) :
    declaredNets? ((directions kind).zip (handshake net) ++ rest) =
      (declaredNets? rest).map ((kind, net) :: ·) := by
  cases kind <;> exact if_pos rfl

/-- The declarations of nets are read as the nets with their kinds. -/
theorem declaredNets?_signals (nets : List (NetKind × String)) :
    declaredNets? (nets.flatMap fun net => (directions net.1).zip (handshake net.2)) =
      some nets := by
  induction nets with
  | nil => rfl
  | cons net nets ih => rw [List.flatMap_cons, declaredNets?_append, ih, Option.map_some]

/-- The nets of a module with their kinds, in the order of their declarations. -/
def Module.kindedNets (m : Module) : List (NetKind × String) :=
  m.inputs.map (.boundaryInput, ·) ++ m.outputs.map (.boundaryOutput, ·) ++
    m.wires.map (.internal, ·)

/-- The declarations in the text are those of the signals of the nets. -/
theorem declared_source (m : Module) : m.source.declared =
    m.kindedNets.flatMap fun net => (directions net.1).zip (handshake net.2) := by
  -- a net of either kind is declared by three items, and nothing else is said of it
  have hnets : ∀ (kind : NetKind) (nets : List String),
      (nets.flatMap (declaredItems kind)).filterMap Item.declared? =
        (nets.map (kind, ·)).flatMap fun net => (directions net.1).zip (handshake net.2) := by
    intro kind nets
    rw [List.filterMap_flatMap, List.flatMap_map]
    refine List.flatMap_congr fun net _ => ?_
    cases kind <;> rfl
  -- instances declare nothing
  have hinstances :
      (m.instances.map fun i => Item.placement i.placement).filterMap Item.declared? = [] := by
    rw [List.filterMap_map]
    exact List.filterMap_eq_nil_iff.2 fun _ _ => rfl
  simp only [Source.declared, Module.source, Module.items, Module.kindedNets, List.filterMap_append,
    List.flatMap_append, hnets, hinstances, List.append_nil]

/-- Nets of one kind are picked from each part by itself. -/
theorem ofKind_append (nets nets' : List (NetKind × String)) (kind : NetKind) :
    ofKind (nets ++ nets') kind = ofKind nets kind ++ ofKind nets' kind := by
  unfold ofKind
  rw [List.filter_append, List.map_append]

/-- From nets of a single kind, all are picked or none. -/
theorem ofKind_map (kind kind' : NetKind) (nets : List String) :
    ofKind (nets.map (kind, ·)) kind' = if kind = kind' then nets else [] := by
  unfold ofKind
  rw [List.filter_map]
  by_cases h : kind = kind' <;> simp [Function.comp_def, h]

/-- An instance is read back from its signals. -/
theorem Instantiation.instantiation?_placement (i : Instantiation) :
    i.placement.instantiation? = some i := by
  change (nets? (signals i.nets)).map _ = _
  rw [nets?_signals, Option.map_some]
  rfl

/-- A module is read back from what its text says. -/
theorem Module.ofSource?_source (m : Module) : Module.ofSource? m.source = some m := by
  unfold Module.ofSource?
  rw [declared_source, declaredNets?_signals, placed_source,
    mapM_map_eq_some fun i _ => i.instantiation?_placement]
  -- the nets stand in the order of their kinds, and each kind is picked out again
  have hinputs : ofKind m.kindedNets .boundaryInput = m.inputs := by
    simp [Module.kindedNets, ofKind_append, ofKind_map]
  have houtputs : ofKind m.kindedNets .boundaryOutput = m.outputs := by
    simp [Module.kindedNets, ofKind_append, ofKind_map]
  have hwires : ofKind m.kindedNets .internal = m.wires := by
    simp [Module.kindedNets, ofKind_append, ofKind_map]
  change some (Module.mk m.name (ofKind m.kindedNets .boundaryInput)
    (ofKind m.kindedNets .boundaryOutput) (ofKind m.kindedNets .internal) m.instances) = some m
  rw [hinputs, houtputs, hwires]

/-- **A module whose names are identifiers can be read back from its text.** -/
theorem Module.read?_text {m : Module} (h : m.WellNamed) : Module.read? m.text = some m := by
  unfold Module.read?
  rw [Source.read?_text h]
  exact m.ofSource?_source

/-! ### The modules of reachable chips -/

/-- The names of the nets of a kind are names of nets. -/
theorem isIdentifier_of_mem_namesOfKind {c : Chip} (h : c.Named) {kind : NetKind} {net : String}
    (hnet : net ∈ c.namesOfKind kind) : IsIdentifier net := by
  obtain ⟨n, hn, rfl⟩ := List.mem_map.1 hnet
  exact h.table _ (h.nameOf_mem (List.mem_of_mem_filter hn))

/-- **Everything that goes into the text of a reachable chip is an identifier**, although only what
callers have chosen was ever checked. -/
theorem wellNamed_ofChip {c : Chip} (h : c.Reachable) : (Module.ofChip c).WellNamed := by
  have hnamed := h.named
  constructor
  case name => exact hnamed.name
  case inputs | outputs | wires => exact fun net => isIdentifier_of_mem_namesOfKind hnamed
  case component =>
    intro i hi
    obtain ⟨inst, hinst, rfl⟩ := List.mem_map.1 hi
    exact hnamed.component inst hinst
  case inst =>
    intro i hi
    obtain ⟨inst, hinst, rfl⟩ := List.mem_map.1 hi
    -- the name was made by a search and never checked, but it is in the table
    exact hnamed.table _ (NameTable.resolve_mem (hnamed.inst inst hinst))
  case nets =>
    intro i hi net hnet
    obtain ⟨inst, hinst, rfl⟩ := List.mem_map.1 hi
    obtain ⟨id, hid, rfl⟩ := List.mem_map.1 hnet
    -- a connection leads to a net of the chip, and nets are named
    obtain ⟨n, hn⟩ := h.wired.exists_net_of_mem_connections (List.mem_flatMap.2 ⟨inst, hinst, hid⟩)
    rw [Chip.netName_eq hn]
    exact hnamed.table _ (hnamed.nameOf_mem (Arena.mem_toList_iff.2 ⟨id.index, hn⟩))

/-- The overview of a module, as `Chip.summary` gives it of a chip. -/
def Module.summary (m : Module) : ChipSummary where
  name := m.name
  boundaryInputs := m.inputs
  boundaryOutputs := m.outputs
  internalNets := m.wires
  instances := m.instances.map fun i => ⟨i.name, i.component⟩

/-- The overview of a module is that of its chip. -/
theorem summary_ofChip (c : Chip) : (Module.ofChip c).summary = c.summary := by
  unfold Module.summary Module.ofChip Chip.summary
  rw [List.map_map]
  rfl

/-- **The text of a reachable chip is unambiguous**, whether or not the chip is complete: one reader
recovers from it the chip's name, the names of its nets by kind, and every instance with its
component, its name and its nets. So chips with the same text have the same module, and the text
declares what the chip's overview reports. -/
theorem moduleText_unambiguous {c : Chip} (h : c.Reachable) :
    Module.read? (moduleText c) = some
      { name := c.name
        inputs := c.namesOfKind .boundaryInput
        outputs := c.namesOfKind .boundaryOutput
        wires := c.namesOfKind .internal
        instances := c.instances.toList.map fun i =>
          { component := i.component.name
            name := c.names.resolve i.name
            nets := (i.inputs ++ i.outputs).map c.netName } } ∧
      (∀ c' : Chip, c'.Reachable → moduleText c = moduleText c' →
        Module.ofChip c = Module.ofChip c') ∧
      (Module.read? (moduleText c)).map Module.summary = some c.summary := by
  have hread : ∀ c : Chip, c.Reachable →
      Module.read? (moduleText c) = some (Module.ofChip c) :=
    fun c h => Module.read?_text (wellNamed_ofChip h)
  refine ⟨hread c h, fun c' h' htext => ?_, ?_⟩
  · -- the reader is a function of the text, so it cannot tell the two chips apart
    have hsame : some (Module.ofChip c) = some (Module.ofChip c') := by
      rw [← hread c h, ← hread c' h', htext]
    exact Option.some.inj hsame
  · rw [hread c h, Option.map_some, summary_ofChip]

/-- The looped chip is read back with all its nets in place, and with it any chip of the same text:
the chip from before the mixer was added has another text. -/
theorem moduleText_unambiguous_loopChip :
    Module.read? (moduleText Chip.loopChip) = some
      ⟨"mix", ["a"], ["z"], ["wire_2"],
        [⟨"Mixer", "inst_0_Mixer", ["a", "wire_2", "wire_2", "z"]⟩]⟩ ∧
      moduleText Chip.loopChip ≠ moduleText Chip.openChip ∧
      (Module.read? (moduleText Chip.loopChip)).map Module.summary =
        some Chip.loopChip.summary := by
  obtain ⟨hread, hsame, hsummary⟩ := moduleText_unambiguous Chip.loopChip_reachable
  refine ⟨hread, fun htext => ?_, hsummary⟩
  have hmodule := hsame Chip.openChip Chip.openChip_reachable htext
  exact absurd (congrArg Module.instances hmodule) (by decide)

end Netlist.Verilog
