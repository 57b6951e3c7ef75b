import Mathlib
import Netlist.Proofs.Verilog.PointToPoint

/-!
# Connections are conserved

Every net has two ends. Of the ends on one side, each lies outside, is held by one instance, or is
missing, and this is decided net by net (`Net.holders_add_missing`). Summing over the nets gives an
equation between three numbers that the code finds in three different places:

* the ports of the instances on that side, which are the ends that instances hold, because each port
  has a net and no two of them have the same (`Wired.length_netsOnSide`);
* the diagnostics for missing ends, which come one for each (`reports_eq_sum`);
* the nets whose end on that side lies inside, which are the internal nets and the boundary nets
  that face the outside with their other end (`sum_innerEnds`).

A bind that was lost, doubled or left over after a refused instantiation would upset the balance.
`elaborate_conservation` states it for both sides of a reachable chip. A chip can be elaborated when
nothing is missing, so it takes no look at the nets to tell whether it can: counting the ports of
the instances is enough.
-/

namespace Netlist

/-- The boundary nets that have this end inside. -/
def Slot.boundaryKind : Slot → NetKind
  | driver => .boundaryOutput
  | load => .boundaryInput

namespace Net

/-- How many ends of this side the net has inside: none or one. -/
def innerEnds (n : Net) (s : Slot) : Nat :=
  if n.kind.outerEnd? = some s then 0 else 1

/-- **An inner end is held or missing.** -/
theorem holders_add_missing (n : Net) (s : Slot) :
    n.holders s + n.missingSlots.count s = n.innerEnds s := by
  obtain ⟨id, name, connection⟩ := n
  unfold holders missingSlots innerEnds endpoint
  -- what is in the slots decides, so all contents are gone through
  cases connection with
  | internal driver load =>
    cases s <;> cases driver <;> cases load <;>
      simp [Connection.slot?, kind, Connection.kind, Slot.all, NetKind.outerEnd?]
  | boundaryInput load =>
    cases s <;> cases load <;>
      simp [Connection.slot?, kind, Connection.kind, Slot.all, NetKind.outerEnd?]
  | boundaryOutput driver =>
    cases s <;> cases driver <;>
      simp [Connection.slot?, kind, Connection.kind, Slot.all, NetKind.outerEnd?]

/-- The end lies inside for two of the three kinds. -/
theorem innerEnds_eq (n : Net) (s : Slot) : n.innerEnds s =
    (if n.kind = s.boundaryKind then 1 else 0) + if n.kind = .internal then 1 else 0 := by
  unfold innerEnds
  cases n.kind <;> cases s <;> rfl

end Net

namespace Chip

/-! ### Ports -/

/-- No two nets have the same number. -/
theorem Wired.nodup_ids {c : Chip} (h : c.Wired) : (c.nets.toList.map Net.id).Nodup := by
  rw [h.map_id_nets]
  exact List.nodup_range.map fun j k hjk => congrArg NetId.index hjk

/-- **The ports of one side** are the ends of that side which instances hold. -/
theorem Wired.length_netsOnSide {c : Chip} (h : c.Wired) (s : Slot) :
    (c.netsOnSide s).length = (c.nets.toList.map fun n => n.holders s).sum := by
  -- every port has a net of the chip, so it is counted under the number of that net
  have hmem : ∀ id ∈ (c.netsOnSide s : Multiset NetId),
      id ∈ (c.nets.toList.map Net.id).toFinset := by
    intro id hid
    obtain ⟨i, hi, hid⟩ := List.mem_flatMap.1 (Multiset.mem_coe.1 hid)
    obtain ⟨k, hk⟩ := Arena.mem_toList_iff.1 hi
    obtain ⟨n, hn⟩ := h.exists_net hk hid
    rw [List.mem_toFinset]
    exact List.mem_map.2 ⟨n, Arena.mem_toList_iff.2 ⟨_, hn⟩, h.net_id hn⟩
  calc
    (c.netsOnSide s).length
    _ = (c.netsOnSide s : Multiset NetId).card := (Multiset.coe_card _).symm
    _ = ∑ id ∈ (c.nets.toList.map Net.id).toFinset, (c.netsOnSide s).count id := by
      rw [← Multiset.sum_count_eq_card hmem]
      simp only [Multiset.coe_count]
    _ = ((c.nets.toList.map Net.id).map fun id => (c.netsOnSide s).count id).sum :=
      List.sum_toFinset _ h.nodup_ids
    _ = (c.nets.toList.map fun n => n.holders s).sum := by
      rw [List.map_map]
      refine congrArg List.sum (List.map_congr_left fun n hn => ?_)
      obtain ⟨k, hk⟩ := Arena.mem_toList_iff.1 hn
      exact h.count_netsOnSide (h.net_id hk ▸ hk) s

/-! ### Diagnostics -/

/-- How many of the diagnostics for missing ends have the given code. -/
def reports (c : Chip) (number : UInt16) : Nat :=
  (c.violations.flatMap Violation.toDiagnostics).countP fun d => d.code == ⟨.error, number⟩

/-- Complete nets have nothing to be reported, so it does not matter that they are left out. -/
theorem flatMap_toDiagnostics_violations (c : Chip) : c.violations.flatMap Violation.toDiagnostics =
    c.nets.toList.flatMap fun n => (c.violationOf n).toDiagnostics := by
  unfold violations
  induction c.nets.toList with
  | nil => rfl
  | cons n nets ih =>
    cases hcomplete : n.isComplete with
    | true =>
      have hnone : (c.violationOf n).toDiagnostics = [] :=
        List.map_eq_nil_iff.2 (Net.isComplete_iff.1 hcomplete)
      simp only [List.filter_cons, hcomplete, Bool.not_true, Bool.false_eq_true, if_false,
        List.flatMap_cons, hnone, List.nil_append, ih]
    | false =>
      simp only [List.filter_cons, hcomplete, Bool.not_false, if_true, List.map_cons,
        List.flatMap_cons, ih]

/-- **Diagnostics for one side** come one for each missing end of that side. -/
theorem reports_eq_sum (c : Chip) (s : Slot) : c.reports (Violation.codeNumber s) =
    (c.nets.toList.map fun n => n.missingSlots.count s).sum := by
  rw [reports, flatMap_toDiagnostics_violations, List.countP_flatMap]
  refine congrArg List.sum (List.map_congr_left fun n _ => ?_)
  rw [Function.comp_apply, Violation.toDiagnostics, List.countP_map, List.count]
  -- the code tells the end
  refine List.countP_congr fun t _ => ?_
  cases s <;> cases t <;> simp [Violation.diagnosticFor, Diagnostic.error, Diagnostic.plain,
    Diagnostic.withSubject, Diagnostic.withHelp, Violation.codeNumber]

/-! ### The balance -/

/-- The inner ends of one side are counted by the kinds of the nets. -/
theorem sum_innerEnds (c : Chip) (s : Slot) : (c.nets.toList.map fun n => n.innerEnds s).sum =
    (c.netsOfKind s.boundaryKind).length + (c.netsOfKind .internal).length := by
  have hcount : ∀ kind : NetKind,
      (c.nets.toList.map fun n => if n.kind = kind then 1 else 0).sum =
        (c.netsOfKind kind).length := by
    intro kind
    rw [List.sum_map_ite, netsOfKind]
    simp [Bool.beq_eq_decide_eq]
  simp only [Net.innerEnds_eq, List.sum_map_add, hcount]

/-- **Ports and missing ends** together are the inner ends of the nets. -/
theorem Wired.conservation {c : Chip} (h : c.Wired) (s : Slot) :
    (c.netsOnSide s).length + c.reports (Violation.codeNumber s) =
      (c.netsOfKind s.boundaryKind).length + (c.netsOfKind .internal).length := by
  rw [h.length_netsOnSide, reports_eq_sum, ← List.sum_map_add, ← sum_innerEnds]
  -- net by net, held and missing ends make up the inner ones
  exact congrArg List.sum (List.map_congr_left fun n _ => n.holders_add_missing s)

/-- A chip is complete when there is nothing to report of either side. -/
theorem forall_isComplete_iff_reports (c : Chip) : (∀ n ∈ c.nets.toList, n.isComplete = true) ↔
    ∀ s, c.reports (Violation.codeNumber s) = 0 := by
  simp only [reports_eq_sum, List.sum_eq_zero_iff, List.forall_mem_map, Net.isComplete_iff,
    List.count_eq_zero]
  constructor
  · intro h s n hn
    rw [h n hn]
    exact List.not_mem_nil
  · intro h n hn
    exact List.eq_nil_iff_forall_not_mem.2 fun s => h s n hn

end Chip

namespace Verilog

/-- **Connections are conserved.** In a reachable chip, the inputs of all instances and the missing
loads together are as many as the boundary inputs and internal nets, the outputs and the missing
drivers as many as the boundary outputs and internal nets. So the chip can be elaborated exactly
when the components of its instances have, in all, as many ports on each side as there are nets to
connect. -/
theorem elaborate_conservation {c : Chip} (h : c.Reachable) :
    (c.instances.toList.map fun i => i.inputs.length).sum + c.reports 301 =
        (c.netsOfKind .boundaryInput).length + (c.netsOfKind .internal).length ∧
      (c.instances.toList.map fun i => i.outputs.length).sum + c.reports 300 =
        (c.netsOfKind .boundaryOutput).length + (c.netsOfKind .internal).length ∧
      ((∃ text, elaborate c = .ok text) ↔
        (c.instances.toList.map fun i => i.component.inputPorts.length).sum =
            (c.netsOfKind .boundaryInput).length + (c.netsOfKind .internal).length ∧
          (c.instances.toList.map fun i => i.component.outputPorts.length).sum =
            (c.netsOfKind .boundaryOutput).length + (c.netsOfKind .internal).length) := by
  have hinputs : (c.instances.toList.map fun i => i.inputs.length).sum + c.reports 301 =
      (c.netsOfKind .boundaryInput).length + (c.netsOfKind .internal).length := by
    have hload := h.wired.conservation .load
    rwa [Chip.netsOnSide, List.length_flatMap] at hload
  have houtputs : (c.instances.toList.map fun i => i.outputs.length).sum + c.reports 300 =
      (c.netsOfKind .boundaryOutput).length + (c.netsOfKind .internal).length := by
    have hdriver := h.wired.conservation .driver
    rwa [Chip.netsOnSide, List.length_flatMap] at hdriver
  -- an instance has as many nets as its component has ports
  have harity : ∀ i ∈ c.instances.toList, i.inputs.length = i.component.inputPorts.length ∧
      i.outputs.length = i.component.outputPorts.length := by
    intro i hi
    obtain ⟨k, hk⟩ := Arena.mem_toList_iff.1 hi
    exact Prod.mk.inj (h.wired.arity hk)
  refine ⟨hinputs, houtputs, ?_⟩
  rw [exists_elaborate_eq_ok_iff, c.forall_isComplete_iff_reports,
    ← List.map_congr_left fun i hi => (harity i hi).1,
    ← List.map_congr_left fun i hi => (harity i hi).2]
  constructor
  · intro hnone
    have hload : c.reports 301 = 0 := hnone .load
    have hdriver : c.reports 300 = 0 := hnone .driver
    omega
  · rintro ⟨hin, hout⟩ s
    -- what the components have makes up for all ends, so nothing can be missing
    have hload : c.reports 301 = 0 := by omega
    have hdriver : c.reports 300 = 0 := by omega
    cases s with
    | load => exact hload
    | driver => exact hdriver

/-- The chip without instances has two missing ends on each side; in the looped chip the mixer's two
inputs and two outputs are just enough. -/
theorem elaborate_conservation_loopChip :
    (Chip.openChip.Reachable ∧ Chip.openChip.reports 301 = 2 ∧ Chip.openChip.reports 300 = 2) ∧
      Chip.loopChip.Reachable ∧ ∃ text, elaborate Chip.loopChip = .ok text := by
  obtain ⟨hinputs, houtputs, -⟩ := elaborate_conservation Chip.openChip_reachable
  obtain ⟨-, -, hiff⟩ := elaborate_conservation Chip.loopChip_reachable
  have hin : 0 + Chip.openChip.reports 301 = 1 + 1 := hinputs
  have hout : 0 + Chip.openChip.reports 300 = 1 + 1 := houtputs
  exact ⟨⟨Chip.openChip_reachable, by omega, by omega⟩, Chip.loopChip_reachable,
    hiff.2 ⟨rfl, rfl⟩⟩

end Verilog

end Netlist
