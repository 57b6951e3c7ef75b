import Netlist.Project
import Netlist.Proofs.Chip.Acceptance

/-!
# Building a chip entry by entry

A project's chip is built from four lists of entries: the names of its nets by kind, and its
declared instances. Every entry is tried on the chip as it stands. `tryNet` and `tryInstance` give
the chip after an entry that is accepted, and `none` for one that is rejected; they know nothing of
diagnostics, origins and positions. `Build.Tried` ties them to the code: an accepted entry changes
the chip and reports nothing, a rejected one reports something and leaves the chip as it was.

All four lists are gone through in the same way (`Build.addAll`), so what holds of a list is proved
once. Two things are:

* a list is added without a diagnostic exactly when all its entries can be tried one after the
  other, and then this gives the chip (`Build.clean?_addAll`);
* a list and the entries of it that are accepted lead to the same chip, and the second way reports
  nothing (`Build.addAll_accepted`).

The law about manifests that follows is `buildChip_acceptedManifest`: rejected entries leave no
trace in the chip, whichever they are and in whatever order they come.
-/

namespace Netlist

/-- The chip after a step, if the step has not been refused. -/
def Chip.Step.accepted? {α : Type} (s : Step α) : Option Chip :=
  match s.outcome with
  | .ok _ => some s.chip
  | .error _ => none

/-- A step is accepted if it has an answer, and then its chip is taken. -/
theorem Chip.Step.accepted?_eq_some_iff {α : Type} {s : Step α} {c : Chip} :
    s.accepted? = some c ↔ (∃ a, s.outcome = .ok a) ∧ s.chip = c := by
  unfold accepted?
  cases hs : s.outcome with
  | error e => exact ⟨(nomatch ·), fun ⟨⟨_, h⟩, _⟩ => nomatch h⟩
  | ok a => exact ⟨fun h => ⟨⟨a, rfl⟩, Option.some.inj h⟩, fun h => congrArg some h.2⟩

namespace Project

/-! ### Trying an entry -/

/-- What the name of a net makes of a chip; `none` if it is rejected. -/
def tryNet (kind : NetKind) (c : Chip) (name : String) : Option Chip :=
  (c.createNet name kind).accepted?

/-- What a declared instance makes of a chip; `none` if it is rejected. Its component and all its
nets have to be there before it is tried. -/
def tryInstance (library : Library) (c : Chip) (p : InstancePlan) : Option Chip := do
  let d ← library.get? p.component
  if (boundNames p.binding).all fun name => (c.findNet? name).isSome then
    (connect c d p.binding).accepted?
  else none

namespace Build

/-- The chip, if nothing has been reported. -/
def clean? (b : Build) : Option Chip :=
  if b.diagnostics = [] then some b.chip else none

theorem clean?_eq_some_iff {b : Build} {c : Chip} :
    b.clean? = some c ↔ b.diagnostics = [] ∧ b.chip = c := by
  unfold clean?
  split
  · next h => exact ⟨fun e => ⟨h, Option.some.inj e⟩, fun e => congrArg some e.2⟩
  · next h => exact ⟨(nomatch ·), fun e => absurd e.1 h⟩

/-- **One entry has been tried** between two builds: it was accepted and nothing was reported, or it
was rejected with a report and has left the chip alone. -/
inductive Tried (b : Build) : Option Chip → Build → Prop where
  | accepted {b' : Build} (quiet : b'.diagnostics = b.diagnostics) : Tried b (some b'.chip) b'
  | rejected {b' : Build} (ds : List Diagnostic) (some_reported : ds ≠ [])
      (chip_eq : b'.chip = b.chip) (reported : b'.diagnostics = b.diagnostics ++ ds) :
      Tried b none b'

namespace Tried

variable {b b' : Build}

theorem of_some {c : Chip} (h : b.Tried (some c) b') :
    b'.chip = c ∧ b'.diagnostics = b.diagnostics := by
  cases h with
  | accepted quiet => exact ⟨rfl, quiet⟩

theorem of_none (h : b.Tried none b') :
    b'.chip = b.chip ∧ ∃ ds, ds ≠ [] ∧ b'.diagnostics = b.diagnostics ++ ds := by
  cases h with
  | rejected ds some_reported chip_eq reported => exact ⟨chip_eq, ds, some_reported, reported⟩

end Tried

/-- What has been reported stays: an entry cannot make a build clean again. -/
theorem Tried.clean?_eq {b b' : Build} {attempted : Option Chip} (h : b.Tried attempted b') :
    b'.clean? = b.clean? >>= fun _ => attempted := by
  cases h with
  | accepted quiet =>
    unfold clean?
    rw [quiet]
    split <;> rfl
  | rejected ds some_reported chip_eq reported =>
    have hloud : b'.diagnostics ≠ [] := by
      rw [reported]
      exact List.append_ne_nil_of_right_ne_nil _ some_reported
    rw [clean?, if_neg hloud]
    cases b.clean? <;> rfl

/-- A step that does all or nothing is tried by taking it over. -/
theorem tried_take {α : Type} (b : Build) (origin : String) {s : Chip.Step α}
    (h : s.AllOrNothing b.chip) : b.Tried s.accepted? (b.take origin s) := by
  unfold Chip.Step.accepted?
  cases hs : s.outcome with
  -- accepted: there is no diagnostic to add
  | ok a =>
    have hquiet : (b.take origin s).diagnostics = b.diagnostics := by
      change b.diagnostics ++ stepDiagnostics origin s.outcome = b.diagnostics
      rw [hs]
      exact List.append_nil _
    exact .accepted hquiet
  | error e =>
    refine .rejected (stepDiagnostics origin s.outcome) ?_ (h.chip_eq hs) rfl
    rw [hs]
    exact List.cons_ne_nil _ _

theorem tried_report (b : Build) {ds : List Diagnostic} (h : ds ≠ []) :
    b.Tried none (b.report ds) :=
  .rejected ds h rfl rfl

/-- Adds the name of a net; its position is not mentioned in any report. -/
def addNet (kind : NetKind) (origin : String) (_ : Nat) (b : Build) (name : String) : Build :=
  b.take origin (b.chip.createNet name kind)

theorem tried_addNet (kind : NetKind) (origin : String) (index : Nat) (b : Build) (name : String) :
    b.Tried (tryNet kind b.chip name) (addNet kind origin index b name) :=
  tried_take b origin (b.chip.createNet_allOrNothing name kind)

/-- Connecting an instance has its whole effect or none, by position as well as by name. -/
theorem connect_allOrNothing (c : Chip) (d : Component) (binding : NetBinding) :
    (connect c d binding).AllOrNothing c := by
  cases binding with
  | positional inputs outputs => exact c.instantiate_allOrNothing d _ _
  | named connections => exact c.instantiateByName_allOrNothing d _

/-- No net is unknown exactly when all of them are found. -/
theorem unknownNets_eq_nil_iff {c : Chip} {origin : String} {names : List String} :
    unknownNets c origin names = [] ↔
      (names.all fun name => (c.findNet? name).isSome) = true := by
  unfold unknownNets
  rw [List.map_eq_nil_iff, List.filter_eq_nil_iff, List.all_eq_true]
  simp only [Option.isNone_iff_eq_none, ← Option.isSome_iff_ne_none]

theorem tried_addInstance (library : Library) (index : Nat) (b : Build) (p : InstancePlan) :
    b.Tried (tryInstance library b.chip p) (b.addInstance library index p) := by
  unfold tryInstance addInstance
  -- the three ways in which a declared instance can fail, in the order of the code
  cases library.get? p.component with
  | none => exact tried_report b (List.cons_ne_nil _ _)
  | some d =>
    rw [Option.bind_eq_bind, Option.bind_some]
    dsimp only
    cases hunknown :
        unknownNets b.chip (Manifest.instanceOrigin index) (boundNames p.binding) with
    | nil =>
      rw [if_pos (unknownNets_eq_nil_iff.1 hunknown)]
      exact tried_take b _ (connect_allOrNothing b.chip d p.binding)
    | cons first others =>
      have hsome : ¬ ((boundNames p.binding).all fun name => (b.chip.findNet? name).isSome) =
          true := by
        intro hall
        rw [unknownNets_eq_nil_iff.2 hall] at hunknown
        cases hunknown
      rw [if_neg hsome]
      exact tried_report b (List.cons_ne_nil _ _)

/-! ### Trying a list of entries -/

/-- Adds entries that are counted from `index`. -/
def addAll {α : Type} (add : Nat → Build → α → Build) (index : Nat) : List α → Build → Build
  | [], b => b
  | x :: rest, b => addAll add (index + 1) rest (add index b x)

theorem addNets_eq_addAll (kind : NetKind) (origin : String) (index : Nat) (names : List String)
    (b : Build) : addNets kind origin names b = addAll (addNet kind origin) index names b := by
  -- the index goes along for the sake of the other loop, and is never looked at
  induction names generalizing index b with
  | nil => rfl
  | cons name names ih => exact ih (index + 1) (addNet kind origin index b name)

theorem addInstances_eq_addAll (library : Library) (index : Nat) (ps : List InstancePlan)
    (b : Build) : addInstances library index ps b =
      addAll (fun index b p => b.addInstance library index p) index ps b := by
  induction ps generalizing index b with
  | nil => rfl
  | cons p ps ih => exact ih (index + 1) (b.addInstance library index p)

/-- **The entries that produce no diagnostic** when a list is added. -/
def accepted {α : Type} (add : Nat → Build → α → Build) (index : Nat) : List α → Build → List α
  | [], _ => []
  | x :: rest, b =>
    let b' := add index b x
    if b'.diagnostics = b.diagnostics then x :: accepted add (index + 1) rest b'
    else accepted add (index + 1) rest b'

section Lists

variable {α : Type} {attempt : Chip → α → Option Chip} {add : Nat → Build → α → Build}
  (htried : ∀ index b x, Tried b (attempt b.chip x) (add index b x))

include htried

/-- A list is added without a diagnostic exactly when its entries can be tried one after the other.
-/
theorem clean?_addAll (index : Nat) (xs : List α) (b : Build) :
    (addAll add index xs b).clean? = b.clean? >>= xs.foldlM attempt := by
  -- entry by entry; once something has been reported, both sides stay without an answer
  induction xs generalizing index b with
  | nil => exact (bind_pure b.clean?).symm
  | cons x xs ih =>
    rw [addAll, ih, (htried index b x).clean?_eq, bind_assoc]
    cases hb : b.clean? with
    | none => rfl
    | some c =>
      obtain ⟨-, rfl⟩ := clean?_eq_some_iff.1 hb
      rfl

/-- **A list and its accepted entries lead to the same chip.** The positions of the entries that are
left may differ from those they had. -/
theorem addAll_accepted (index index' : Nat) (xs : List α) {b b' : Build}
    (hchip : b'.chip = b.chip) :
    (addAll add index' (accepted add index xs b) b').chip = (addAll add index xs b).chip ∧
      (addAll add index' (accepted add index xs b) b').diagnostics = b'.diagnostics := by
  -- the two builds go through the list side by side and stand at the same chip
  induction xs generalizing index index' b b' with
  | nil => exact ⟨hchip, rfl⟩
  | cons x xs ih =>
    have h := htried index b x
    have h' := htried index' b' x
    rw [hchip] at h'
    rw [accepted, addAll]
    cases hx : attempt b.chip x with
    | some c =>
      -- the entry stays, and does in the second build what it does in the first
      rw [hx] at h h'
      obtain ⟨hc, hquiet⟩ := h.of_some
      obtain ⟨hc', hquiet'⟩ := h'.of_some
      rw [if_pos hquiet, addAll, ← hquiet']
      exact ih (index + 1) (index' + 1) (hc'.trans hc.symm)
    | none =>
      -- the entry goes, and has left the first build's chip alone
      rw [hx] at h
      obtain ⟨hc, ds, hds, hreported⟩ := h.of_none
      have hloud : ¬ (add index b x).diagnostics = b.diagnostics := by
        rw [hreported]
        exact fun h => hds (List.append_right_eq_self.1 h)
      rw [if_neg hloud]
      exact ih (index + 1) index' (hchip.trans hc.symm)

end Lists

end Build

/-! ### Rejected entries leave no trace -/

/-- **The plan without its rejected entries**: of each list, the entries that produced no diagnostic
when the plan was carried out on the given chip. -/
def acceptedPlan (library : Library) (plan : ChipPlan) (c : Chip) : ChipPlan :=
  let atInputs : Build := ⟨c, [], []⟩
  let atOutputs := Build.addNets .boundaryInput "chip.inputs" plan.inputs atInputs
  let atWires := Build.addNets .boundaryOutput "chip.outputs" plan.outputs atOutputs
  let atInstances := Build.addNets .internal "chip.wires" plan.wires atWires
  { inputs := Build.accepted (Build.addNet .boundaryInput "chip.inputs") 0 plan.inputs atInputs
    outputs := Build.accepted (Build.addNet .boundaryOutput "chip.outputs") 0 plan.outputs atOutputs
    wires := Build.accepted (Build.addNet .internal "chip.wires") 0 plan.wires atWires
    instances := Build.accepted (fun index b p => b.addInstance library index p) 0 plan.instances
      atInstances }

/-- The manifest without its rejected entries. -/
def acceptedManifest (library : Library) (m : Manifest) : Manifest :=
  { m with chip := acceptedPlan library m.chip ⟨m.project.name, .empty, .empty, .empty⟩ }

theorem addNets_accepted (kind : NetKind) (origin : String) (names : List String) {b b' : Build}
    (hchip : b'.chip = b.chip) (hquiet : b'.diagnostics = []) :
    (Build.addNets kind origin
        (Build.accepted (Build.addNet kind origin) 0 names b) b').chip =
          (Build.addNets kind origin names b).chip ∧
      (Build.addNets kind origin
        (Build.accepted (Build.addNet kind origin) 0 names b) b').diagnostics = [] := by
  rw [Build.addNets_eq_addAll kind origin 0, Build.addNets_eq_addAll kind origin 0]
  obtain ⟨hsame, hquiet'⟩ := Build.addAll_accepted (Build.tried_addNet kind origin) 0 0 names hchip
  exact ⟨hsame, hquiet'.trans hquiet⟩

/-- A plan and its accepted entries build the same chip, the second without a diagnostic. -/
theorem buildFrom_acceptedPlan (library : Library) (plan : ChipPlan) (c : Chip) :
    (buildFrom library (acceptedPlan library plan c) c).chip = (buildFrom library plan c).chip ∧
      (buildFrom library (acceptedPlan library plan c) c).diagnostics = [] := by
  unfold buildFrom acceptedPlan
  -- list by list: the two builds stand at the same chip, and the second has reported nothing
  have hstart : (⟨c, [], []⟩ : Build).chip = (⟨c, [], []⟩ : Build).chip := rfl
  obtain ⟨hinputs, hquiet⟩ := addNets_accepted .boundaryInput "chip.inputs" plan.inputs hstart rfl
  obtain ⟨houtputs, hquiet⟩ :=
    addNets_accepted .boundaryOutput "chip.outputs" plan.outputs hinputs hquiet
  obtain ⟨hwires, hquiet⟩ := addNets_accepted .internal "chip.wires" plan.wires houtputs hquiet
  rw [Build.addInstances_eq_addAll, Build.addInstances_eq_addAll]
  obtain ⟨hinstances, hquiet'⟩ :=
    Build.addAll_accepted (Build.tried_addInstance library) 0 0 plan.instances hwires
  exact ⟨hinstances, hquiet'.trans hquiet⟩

/-- Of a project named by an identifier, the build starts from the empty chip of this name. -/
theorem buildChip_of_isIdentifier {m : Manifest} (library : Library)
    (h : IsIdentifier m.project.name) :
    (buildChip m library).chip =
        some (buildFrom library m.chip ⟨m.project.name, .empty, .empty, .empty⟩).chip ∧
      (buildChip m library).diagnostics =
        (buildFrom library m.chip ⟨m.project.name, .empty, .empty, .empty⟩).diagnostics := by
  have hnew : Chip.new m.project.name = .ok ⟨m.project.name, .empty, .empty, .empty⟩ := by
    rw [Chip.new, checkIdentifier_eq_ok_iff.2 h]
    rfl
  unfold buildChip
  rw [hnew]
  exact ⟨rfl, rfl⟩

/-- **Rejected entries leave no trace.** The chip that is built from a manifest, whatever is wrong
with its nets and instances, is the chip built from the manifest without the entries that were
reported, in all its names, nets and instances; and nothing is reported of that manifest. -/
theorem buildChip_acceptedManifest {m : Manifest} (library : Library)
    (h : IsIdentifier m.project.name) :
    (buildChip (acceptedManifest library m) library).chip = (buildChip m library).chip ∧
      (buildChip m library).chip.isSome = true ∧
      (buildChip (acceptedManifest library m) library).diagnostics = [] := by
  -- the name of the project is no entry of a list, so it is still there
  have h' : IsIdentifier (acceptedManifest library m).project.name := h
  obtain ⟨hchip, -⟩ := buildChip_of_isIdentifier library h
  obtain ⟨hchip', hdiagnostics'⟩ := buildChip_of_isIdentifier library h'
  obtain ⟨hsame, hquiet⟩ := buildFrom_acceptedPlan library m.chip
    ⟨m.project.name, .empty, .empty, .empty⟩
  refine ⟨?_, ?_, hdiagnostics'.trans hquiet⟩
  · rw [hchip', hchip]
    exact congrArg some hsame
  · rw [hchip]
    rfl

/-- A component with two inputs and one output. -/
def adder : Component := ⟨"Adder", ["x", "y"], ["z"], ""⟩

/-- A library with just the adder; no source is asked for. -/
def adderLibrary : Library := ⟨[⟨⟨0, 0⟩, adder⟩]⟩

/-- A manifest in which only one entry of each list is accepted: a name comes twice, one is
reserved, and one is the acknowledge of another; a component and a net are missing, and the last
instance asks for a net that the one in front of it has got. -/
def faultyManifest : Manifest where
  project := ⟨"broken", "", ""⟩
  output := Manifest.defaultOutput
  componentPaths := []
  chip :=
    { inputs := ["a", "a", "module"]
      outputs := ["sum", "a_ack"]
      wires := ["w"]
      instances :=
        [⟨"Multiplier", some ["a"], none, none⟩,
          ⟨"Adder", some ["a", "nope"], some ["sum"], none⟩,
          ⟨"Adder", none, none, some [("x", "a"), ("y", "w"), ("z", "w")]⟩,
          ⟨"Adder", some ["a", "w"], some ["sum"], none⟩] }

/-- The faulty manifest has six rejected entries; without them it builds the same chip. -/
theorem buildChip_acceptedManifest_faulty :
    IsIdentifier faultyManifest.project.name ∧
      (buildChip faultyManifest adderLibrary).diagnostics.length = 6 ∧
      (buildChip (acceptedManifest adderLibrary faultyManifest) adderLibrary).chip =
        (buildChip faultyManifest adderLibrary).chip ∧
      (buildChip
        { faultyManifest with chip := ⟨["a"], ["sum"], ["w"],
            [⟨"Adder", none, none, some [("x", "a"), ("y", "w"), ("z", "w")]⟩]⟩ }
        adderLibrary).diagnostics = [] := by
  have hname : IsIdentifier faultyManifest.project.name := by decide
  obtain ⟨hchip, -, hquiet⟩ := buildChip_acceptedManifest adderLibrary hname
  exact ⟨hname, rfl, hchip, hquiet⟩

end Project

end Netlist
