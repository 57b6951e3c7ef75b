import Netlist.Proofs.Chip.Persistence
import Netlist.Proofs.Project.Plans

/-!
# What a chip has from its manifest

Building the chip of a project is making calls on it, one for each entry that is not left out before
(`runsTo_buildFrom`). So everything that holds of all reachable chips holds of the chips of
projects, and their name is the one they were created with.

When nothing is reported, no entry is left out. Then the instances of the chip are those that the
manifest declares, in the same order, and each of them has the component that it is declared with:
a library gives a component out under its own name only (`components_of_asksFor`).
-/

namespace Netlist

namespace Chip

/-- **Some calls make the one chip of the other.** -/
def RunsTo (c c' : Chip) : Prop :=
  ∃ calls, c.run calls = c'

namespace RunsTo

variable {c c' c'' : Chip}

theorem refl (c : Chip) : c.RunsTo c :=
  ⟨[], rfl⟩

theorem trans (h : c.RunsTo c') (h' : c'.RunsTo c'') : c.RunsTo c'' := by
  obtain ⟨calls, rfl⟩ := h
  obtain ⟨calls', rfl⟩ := h'
  exact ⟨calls ++ calls', List.foldl_append ..⟩

theorem perform (c : Chip) (k : Call) : c.RunsTo (c.perform k).chip :=
  ⟨[k], rfl⟩

theorem createNet (c : Chip) (name : String) (kind : NetKind) :
    c.RunsTo (c.createNet name kind).chip := by
  cases kind with
  | internal => exact perform c (.createInternal name)
  | boundaryInput => exact perform c (.createBoundaryInput name)
  | boundaryOutput => exact perform c (.createBoundaryOutput name)

/-- What is reached from a reachable chip is reachable. -/
theorem reachable (h : c.RunsTo c') (hc : c.Reachable) : c'.Reachable := by
  obtain ⟨calls, rfl⟩ := h
  exact hc.run calls

theorem keeps (h : c.RunsTo c') : c.Keeps c' := by
  obtain ⟨calls, rfl⟩ := h
  exact c.keeps_run calls

end RunsTo

end Chip

namespace Project

/-! ### Building is making calls -/

theorem runsTo_connect (c : Chip) (d : Component) (binding : NetBinding) :
    c.RunsTo (connect c d binding).chip := by
  cases binding with
  | positional inputs outputs => exact Chip.RunsTo.perform c (.instantiate d _ _)
  | named connections => exact Chip.RunsTo.perform c (.instantiateByName d _)

/-- Adding nets makes a call for each of their names. -/
theorem runsTo_addNets (kind : NetKind) (origin : String) (names : List String) (b : Build) :
    b.chip.RunsTo (Build.addNets kind origin names b).chip := by
  -- a call for each name, from the chip that the names in front have left
  induction names generalizing b with
  | nil => exact .refl b.chip
  | cons name names ih =>
    have hfirst := Chip.RunsTo.createNet b.chip name kind
    exact hfirst.trans (ih (b.take origin (b.chip.createNet name kind)))

/-- A declared instance makes one call, or none if it is left out. -/
theorem runsTo_addInstance (library : Library) (b : Build) (index : Nat) (p : InstancePlan) :
    b.chip.RunsTo (b.addInstance library index p).chip := by
  unfold Build.addInstance
  dsimp only
  split
  · exact .refl b.chip
  · next d _ =>
    split
    · exact runsTo_connect b.chip d p.binding
    · exact .refl b.chip

theorem runsTo_addInstances (library : Library) (index : Nat) (ps : List InstancePlan)
    (b : Build) : b.chip.RunsTo (Build.addInstances library index ps b).chip := by
  -- at most one call for each declaration
  induction ps generalizing index b with
  | nil => exact .refl b.chip
  | cons p ps ih =>
    have hfirst := runsTo_addInstance library b index p
    exact hfirst.trans (ih (index + 1) (b.addInstance library index p))

/-- **A plan is carried out by calls.** -/
theorem runsTo_buildFrom (library : Library) (plan : ChipPlan) (c : Chip) :
    c.RunsTo (buildFrom library plan c).chip := by
  unfold buildFrom
  have hinputs := runsTo_addNets .boundaryInput "chip.inputs" plan.inputs ⟨c, [], []⟩
  have houtputs := hinputs.trans (runsTo_addNets .boundaryOutput "chip.outputs" plan.outputs _)
  have hwires := houtputs.trans (runsTo_addNets .internal "chip.wires" plan.wires _)
  exact hwires.trans (runsTo_addInstances library 0 plan.instances _)

/-! ### The instances of a chip -/

/-- What is placed has the components that are declared. -/
theorem components_of_asksFor {library : Library} {plan : ChipPlan} {ds : Design}
    (h : plan.AsksFor library ds) :
    ds.placements.map (·.component.name) = plan.instances.map (·.component) := by
  -- a component that is found under a name has the name
  have hname : ∀ (p : InstancePlan) (w : Placement), p.AsksFor library w →
      w.component.name = p.component := by
    intro p w hw
    have hfound := List.find?_some hw.component
    exact beq_iff_eq.1 hfound
  have hsame : List.Forall₂ Eq (ds.placements.map (·.component.name))
      (plan.instances.map (·.component)) := by
    rw [List.forall₂_map_left_iff, List.forall₂_map_right_iff]
    exact (h.placements.imp hname).flip
  rwa [List.forall₂_eq_eq_eq] at hsame

/-- The placements of a chip have the components of its instances. -/
theorem map_component_placements (c : Chip) :
    c.design.placements.map (·.component.name) =
      c.instances.toList.map (·.component.name) := by
  rw [Chip.design, List.map_map]
  rfl

/-- **The chip of a project** on which nothing was reported: it is reachable, it has the name of the
project, and its instances have the components that the manifest declares, in the same order. -/
structure IsChipOf (m : Manifest) (c : Chip) : Prop where
  reachable : c.Reachable
  name : c.name = m.project.name
  components : c.instances.toList.map (·.component.name) = m.chip.instances.map (·.component)

/-- A chip on which nothing was reported is the chip of its project. -/
theorem isChipOf_buildChip {m : Manifest} {library : Library} {c : Chip}
    (hchip : (buildChip m library).chip = some c)
    (hclean : (buildChip m library).diagnostics = []) : IsChipOf m c := by
  cases hnew : Chip.new m.project.name with
  | error e =>
    rw [buildChip, hnew] at hchip
    cases hchip
  | ok c₀ =>
    obtain ⟨hname, rfl⟩ := Chip.new_eq_ok hnew
    obtain ⟨hchip', hdiagnostics⟩ := buildChip_of_isIdentifier library hname
    obtain rfl := Option.some.inj (hchip'.symm.trans hchip)
    -- calls neither change the name of a chip nor lead out of the reachable ones
    have hruns := runsTo_buildFrom library m.chip ⟨m.project.name, .empty, .empty, .empty⟩
    obtain ⟨hasks, -, -⟩ := buildFrom_of_clean hname
      (Build.clean?_eq_some_iff.2 ⟨hdiagnostics.symm.trans hclean, rfl⟩)
    refine ⟨hruns.reachable (.new hnew), hruns.keeps.name, ?_⟩
    rw [← map_component_placements]
    exact components_of_asksFor hasks

end Project

end Netlist
