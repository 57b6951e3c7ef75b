import Netlist.Proofs.Project.Plans
import Netlist.Verilog.Elaborate

/-!
# The order of declarations does not matter

Entries of a manifest are accepted or rejected one after the other, names are taken by whoever comes
first, and instances are named after their number. Even so, the lists of an accepted manifest can be
put into any order: the manifest is accepted again, and the chip has the same nets, connected in the
same way, with the same ends missing. This is `buildChip_reordered`.

The reason is in `buildFrom_of_clean` and `buildFrom_of_sound`: whether a plan is accepted is
decided by the design it asks for, and nothing in the conditions on a design depends on an order. So
it is enough that a plan in another order asks for the design in another order
(`ChipPlan.AsksFor.reordered`), which is as sound as before (`Design.Reordered.sound`) and as
incomplete (`Design.Reordered.incomplete`). The names of instances do depend on the order, and are
no part of a design: they are searched for, and no search rejects an instance. That is also why no
bound on the number of names is needed.
-/

open scoped List

namespace Netlist

/-! ### Designs in another order -/

/-- The same nets and placements in another order. -/
structure Design.Reordered (ds ds' : Design) : Prop where
  nets : ds'.nets ~ ds.nets
  placements : ds'.placements ~ ds.placements

namespace Design.Reordered

variable {ds ds' : Design}

theorem ends (h : ds.Reordered ds') : ds'.ends ~ ds.ends :=
  h.placements.flatMap_right _

theorem sound (h : ds.Reordered ds') (hsound : ds.Sound) : ds'.Sound where
  identifiers net hnet := hsound.identifiers net (h.nets.mem_iff.1 hnet)
  signals_nodup := (h.nets.flatMap_right _).nodup_iff.2 hsound.signals_nodup
  arity p hp := hsound.arity p (h.placements.mem_iff.1 hp)
  components p hp := hsound.components p (h.placements.mem_iff.1 hp)
  ends_nodup := h.ends.nodup_iff.2 hsound.ends_nodup
  ends_inner e he := by
    obtain ⟨kind, hnet, hinner⟩ := hsound.ends_inner e (h.ends.mem_iff.1 he)
    exact ⟨kind, h.nets.mem_iff.2 hnet, hinner⟩

/-- The ends that a net lacks are the same ones. -/
theorem missing_eq (h : ds.Reordered ds') : ds'.missing = ds.missing := by
  funext net
  unfold missing
  simp only [h.ends.mem_iff]

/-- The incomplete nets are the same ones. -/
theorem incomplete (h : ds.Reordered ds') : ds'.incomplete ~ ds.incomplete := by
  unfold Design.incomplete
  rw [h.missing_eq]
  exact (h.nets.map _).filter _

end Design.Reordered

/-! ### Plans in another order -/

/-- The same entries, each of the four lists in another order. -/
structure ChipPlan.Reordered (plan plan' : ChipPlan) : Prop where
  inputs : plan'.inputs ~ plan.inputs
  outputs : plan'.outputs ~ plan.outputs
  wires : plan'.wires ~ plan.wires
  instances : plan'.instances ~ plan.instances

theorem ChipPlan.Reordered.nets {plan plan' : ChipPlan} (h : plan.Reordered plan') :
    plan'.nets ~ plan.nets :=
  ((h.inputs.map _).append (h.outputs.map _)).append (h.wires.map _)

/-- Every declared instance asks for its placement wherever it stands. -/
theorem ChipPlan.AsksFor.reordered {library : Library} {plan plan' : ChipPlan} {ds : Design}
    (h : plan.AsksFor library ds) (hplan : plan.Reordered plan') :
    ∃ ds', plan'.AsksFor library ds' ∧ ds.Reordered ds' := by
  -- the placements follow their declarations
  obtain ⟨ps, hps, hperm⟩ := List.perm_comp_forall₂ hplan.instances h.placements
  refine ⟨⟨plan'.nets, ps⟩, ⟨rfl, hps⟩, ?_, hperm⟩
  rw [h.nets]
  exact hplan.nets

/-! ### Chips in another order -/

/-- **Two chips that differ in nothing but the order of creation**, and what hangs on it: the
numbers of nets and instances, and the names of instances. -/
structure Chip.Reordered (c c' : Chip) : Prop where
  /-- The nets by name and kind. -/
  nets : c'.design.nets ~ c.design.nets
  /-- The instances by component and by the names of the nets at their ports. -/
  placements : c'.design.placements ~ c.design.placements
  /-- The incomplete nets by name and kind, with the ends they lack. -/
  violations : c'.violations.map Violation.content ~ c.violations.map Violation.content
  elaborate_iff : (∃ text, Verilog.elaborate c' = .ok text) ↔
    ∃ text, Verilog.elaborate c = .ok text

/-- Chips whose designs differ in the order only, differ in the order of creation only. -/
theorem Chip.reordered_of_design {c c' : Chip} (hc : c.Legible) (hc' : c'.Legible)
    (h : c.design.Reordered c'.design) : c.Reordered c' := by
  have hviolations : c'.violations.map Violation.content ~ c.violations.map Violation.content := by
    rw [hc'.violations_eq, hc.violations_eq]
    exact h.incomplete
  -- a chip is elaborated when there is no violation, and their number has not changed
  have hcomplete (c : Chip) : (∃ text, Verilog.elaborate c = .ok text) ↔
      c.violations.map Violation.content = [] := by
    rw [List.map_eq_nil_iff, Chip.violations_eq_nil_iff, Chip.isComplete, List.all_eq_true]
    exact Verilog.exists_elaborate_eq_ok_iff
  refine ⟨h.nets, h.placements, hviolations, ?_⟩
  rw [hcomplete, hcomplete, ← List.length_eq_zero_iff, ← List.length_eq_zero_iff,
    hviolations.length_eq]

namespace Project

/-- If nothing is reported, the project is named by an identifier. -/
theorem isIdentifier_of_clean {m : Manifest} {library : Library}
    (h : (buildChip m library).diagnostics = []) : IsIdentifier m.project.name := by
  unfold buildChip at h
  cases hnew : Chip.new m.project.name with
  | error e =>
    rw [hnew] at h
    cases h
  | ok c => exact (Chip.new_eq_ok hnew).1

/-- **The order of declarations does not matter.** When nothing is reported of a manifest, nothing
is reported of it with its lists in any other order, and the two chips differ in nothing but the
order of creation. -/
theorem buildChip_reordered {m : Manifest} {plan : ChipPlan} {library : Library}
    (hplan : m.chip.Reordered plan) (h : (buildChip m library).diagnostics = []) :
    (buildChip { m with chip := plan } library).diagnostics = [] ∧
      ∃ c c', (buildChip m library).chip = some c ∧
        (buildChip { m with chip := plan } library).chip = some c' ∧ c.Reordered c' := by
  have hname := isIdentifier_of_clean h
  obtain ⟨hchip, hdiagnostics⟩ := buildChip_of_isIdentifier library hname
  have hname' : IsIdentifier ({ m with chip := plan } : Manifest).project.name := hname
  obtain ⟨hchip', hdiagnostics'⟩ := buildChip_of_isIdentifier library hname'
  -- the first build gives a sound design, and the second is asked for the same in another order
  obtain ⟨hasks, hsound, hlegible⟩ :=
    buildFrom_of_clean hname (Build.clean?_eq_some_iff.2 ⟨hdiagnostics.symm.trans h, rfl⟩)
  obtain ⟨ds, hasks', hreordered⟩ := hasks.reordered hplan
  obtain ⟨c', hclean, rfl, hlegible'⟩ :=
    buildFrom_of_sound hname' hasks' (hreordered.sound hsound)
  obtain ⟨hquiet, rfl⟩ := Build.clean?_eq_some_iff.1 hclean
  exact ⟨hdiagnostics'.trans hquiet, _, _, hchip, hchip',
    Chip.reordered_of_design hlegible hlegible' hreordered⟩

/-- A manifest with two adders in a row. One is connected by name, a wire is called like the first
instance would be, and an input goes nowhere. -/
def chainManifest : Manifest where
  project := ⟨"chain", "", ""⟩
  output := Manifest.defaultOutput
  componentPaths := []
  chip :=
    { inputs := ["a", "b", "c", "spare"]
      outputs := ["sum"]
      wires := ["inst_0_Adder"]
      instances :=
        [⟨"Adder", none, none, some [("x", "a"), ("y", "b"), ("z", "inst_0_Adder")]⟩,
          ⟨"Adder", some ["inst_0_Adder", "c"], some ["sum"], none⟩] }

/-- The plan of the chain with its last entries first. -/
def chainBackwards : ChipPlan where
  inputs := chainManifest.chip.inputs.reverse
  outputs := chainManifest.chip.outputs.reverse
  wires := chainManifest.chip.wires.reverse
  instances := chainManifest.chip.instances.reverse

/-- Declared backwards, the chain is accepted as well, and still only `spare` goes nowhere. -/
theorem buildChip_reordered_chain :
    chainManifest.chip.Reordered chainBackwards ∧
      (buildChip chainManifest adderLibrary).diagnostics = [] ∧
      (buildChip { chainManifest with chip := chainBackwards } adderLibrary).diagnostics = [] ∧
      ∃ c, (buildChip { chainManifest with chip := chainBackwards } adderLibrary).chip = some c ∧
        c.violations.map Violation.content ~ [("spare", .boundaryInput, [.load])] := by
  have hplan : chainManifest.chip.Reordered chainBackwards :=
    ⟨List.reverse_perm _, List.reverse_perm _, List.reverse_perm _, List.reverse_perm _⟩
  have hquiet : (buildChip chainManifest adderLibrary).diagnostics = [] := rfl
  obtain ⟨hquiet', c, c', hc, hc', hreordered⟩ := buildChip_reordered hplan hquiet
  refine ⟨hplan, hquiet, hquiet', c', hc', ?_⟩
  have hviolations : c.violations.map Violation.content = [("spare", .boundaryInput, [.load])] := by
    obtain rfl := Option.some.inj hc
    rfl
  rw [← hviolations]
  exact hreordered.violations

end Project

end Netlist
