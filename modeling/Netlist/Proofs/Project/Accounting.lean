import Netlist.Proofs.Project.Order

/-!
# Accounting for a manifest

Building a chip goes through the four lists of a manifest, and this file says what has become of
each entry: it made something of the chip and was not reported, or it made nothing and was reported,
and then how. `NetEntry` and `InstanceEntry` list the cases. `InOrder` goes through a list with such
a relation, so it says at once that no entry is left out or comes twice, that the entries come in
order, and that nothing else is reported.

A rejected entry leaves the chip as it was. So the invariants that are known of chips without
rejected entries hold whatever has been rejected (`HasOnlyNets` for the nets, `HasNets` for the
instances), and what an accepted entry makes is known from them. That is why nothing is assumed of
the number of names here.

A declaration can write down nets in three lists. `InstancePlan.Names` reads them all, without
asking which of them the code looks at; `InstancePlan.Honours` says that an instance has what is
written, neither more nor less. A manifest without a problem gives nets in one way only, and that is
where this is needed: with both, the code would not look at the nets by position.

`buildChip_accountedFor` is the law: every entry is accounted for, and if nothing was reported then
the chip is what the manifest says, net by net and port by port (`Chip.Realises`).
-/

namespace Netlist

/-! ### What is written in a declaration -/

namespace InstancePlan

/-- The list of nets for the ports of one direction, if there is one. -/
def listOf (p : InstancePlan) : PortDirection → Option (List String)
  | .input => p.inputs
  | .output => p.outputs

/-- All names of nets that are written in the declaration. -/
def writtenNets (p : InstancePlan) : List String :=
  p.inputs.getD [] ++ p.outputs.getD [] ++ (p.connect.getD []).map (·.2)

/-- **The declaration names the net** for the port at a position: the net has this position in the
list of the direction, or is connected to the name of the port. -/
def Names (p : InstancePlan) (d : Component) (dir : PortDirection) (k : Nat) (net : String) :
    Prop :=
  (∃ names, p.listOf dir = some names ∧ names[k]? = some net) ∨
    ∃ connections port, p.connect = some connections ∧ (d.ports dir)[k]? = some port ∧
      (port, net) ∈ connections

/-- Nets are given by position or by name, and not both. -/
def GivesOneWay (p : InstancePlan) : Prop :=
  p.isPositional = !p.connect.isSome

/-- **The instance has what is written**: every list is there in full, every port has a net, and it
is the one that the declaration names. -/
structure Honours (p : InstancePlan) (w : Placement) : Prop where
  lists : ∀ dir names, p.listOf dir = some names → Component.side w.inputs w.outputs dir = names
  connections : ∀ connections, p.connect = some connections →
    w.component.Connects connections w.inputs w.outputs
  length_eq : ∀ dir,
    (Component.side w.inputs w.outputs dir).length = (w.component.ports dir).length
  names_iff : ∀ dir k net,
    (Component.side w.inputs w.outputs dir)[k]? = some net ↔ p.Names w.component dir k net

variable {p : InstancePlan}

/-- Either nets are given by position, or they are given by name. -/
theorem GivesOneWay.cases (h : p.GivesOneWay) :
    p.connect = none ∨ ∃ connections,
      p.connect = some connections ∧ p.inputs = none ∧ p.outputs = none := by
  cases hconnect : p.connect with
  | none => exact Or.inl rfl
  | some connections =>
    have hpositional : p.isPositional = false := by rw [h, hconnect]; rfl
    obtain ⟨hinputs, houtputs⟩ := Bool.or_eq_false_iff.1 hpositional
    exact Or.inr ⟨connections, rfl, by simpa using hinputs, by simpa using houtputs⟩

/-- The names that are looked up are those that are written. -/
theorem GivesOneWay.boundNames_eq (h : p.GivesOneWay) :
    Project.boundNames p.binding = p.writtenNets := by
  unfold binding writtenNets
  rcases h.cases with hconnect | ⟨connections, hconnect, hinputs, houtputs⟩
  · rw [hconnect]
    exact (List.append_nil _).symm
  · rw [hconnect, hinputs, houtputs]
    rfl

/-- By position, the nets of a direction are those of its list; no list stands for no nets. -/
theorem side_getD (p : InstancePlan) (dir : PortDirection) :
    Component.side (p.inputs.getD []) (p.outputs.getD []) dir = (p.listOf dir).getD [] := by
  cases dir <;> rfl

/-- **A placement that a declaration asks for honours it**, if it has a net for every port. -/
theorem GivesOneWay.honours (h : p.GivesOneWay) {library : Library} {w : Placement}
    (hasks : p.AsksFor library w)
    (hlength : ∀ dir,
      (Component.side w.inputs w.outputs dir).length = (w.component.ports dir).length) :
    p.Honours w := by
  obtain ⟨d, inputs, outputs⟩ := w
  have hgives : p.binding.Gives d inputs outputs := hasks.binding
  unfold binding at hgives
  rcases h.cases with hconnect | ⟨connections, hconnect, hinputs, houtputs⟩
  · -- by position: the sides are the lists themselves
    rw [hconnect] at hgives
    obtain ⟨rfl, rfl⟩ := hgives
    refine ⟨?_, fun _ hsome => ?_, hlength, fun dir k net => ?_⟩
    · intro dir names hnames
      rw [side_getD, hnames, Option.getD_some]
    · rw [hconnect] at hsome
      cases hsome
    · rw [side_getD, Names, hconnect]
      cases p.listOf dir <;> simp
  · -- by name: no list is written, and the ports tell the nets
    rw [hconnect] at hgives
    have hconnects : d.Connects connections inputs outputs := hgives
    have hlistOf : ∀ dir, p.listOf dir = none := fun dir => by
      cases dir with
      | input => exact hinputs
      | output => exact houtputs
    refine ⟨fun dir names hnames => ?_, fun _ hsome => ?_, hlength, fun dir k net => ?_⟩
    · rw [hlistOf dir] at hnames
      cases hnames
    · obtain rfl : connections = _ := Option.some.inj (hconnect.symm.trans hsome)
      exact hconnects
    · have hnames : p.Names d dir k net ↔
          ∃ port, (d.ports dir)[k]? = some port ∧ (port, net) ∈ connections := by
        rw [Names, hlistOf, hconnect]
        simp
      rw [hnames]
      exact hconnects.getElem?_side_iff

end InstancePlan

namespace Manifest

/-- An instance without a problem gives its nets in one way. -/
theorem givesOneWay_of_instanceProblem? {index : Nat} {p : InstancePlan}
    (h : instanceProblem? index p = none) : p.GivesOneWay := by
  unfold instanceProblem? at h
  unfold InstancePlan.GivesOneWay
  split at h
  · cases h
  · cases hpositional : p.isPositional <;> cases hconnect : p.connect.isSome <;> simp_all

/-- So does each of several instances without a problem. -/
theorem givesOneWay_of_instancesProblem? {index : Nat} {ps : List InstancePlan}
    (h : instancesProblem? index ps = none) : ∀ p ∈ ps, p.GivesOneWay := by
  -- one after the other, from any index
  induction ps generalizing index with
  | nil => exact fun _ hp => nomatch hp
  | cons p rest ih =>
    obtain ⟨hfirst, hrest⟩ := Option.or_eq_none_iff.1 h
    exact List.forall_mem_cons.2 ⟨givesOneWay_of_instanceProblem? hfirst, ih hrest⟩

/-- A manifest without a problem gives every instance its nets in one way. -/
theorem givesOneWay_of_problem? {m : Manifest} (h : m.problem? = none) :
    ∀ p ∈ m.chip.instances, p.GivesOneWay := by
  unfold problem? at h
  split_ifs at h
  exact givesOneWay_of_instancesProblem? h

end Manifest

namespace Project

/-! ### What becomes of an entry -/

/-- **What becomes of the name of a net** in one of the lists `chip.inputs`, `chip.outputs` and
`chip.wires`. -/
inductive NetEntry (kind : NetKind) (origin : String) (c : Chip) (name : String) :
    Chip → List Diagnostic → Prop where
  /-- One net is created. -/
  | created {c' : Chip}
      (design : c'.design = ⟨c.design.nets ++ [(name, kind)], c.design.placements⟩) :
      NetEntry kind origin c name c' []
  /-- One of its signals has a name that is taken. -/
  | taken {d : Diagnostic} (code : d.code = ⟨.error, 304⟩) (subject : d.subject = some name)
      (note : originNote origin ∈ d.notes)
      (clash : ∃ s ∈ handshake name, s ∈ c.names.toList) : NetEntry kind origin c name c [d]
  /-- The name is no identifier. -/
  | invalid {d : Diagnostic} (code : d.code = ⟨.error, 305⟩) (subject : d.subject = some name)
      (note : originNote origin ∈ d.notes) (flaw : ¬ IsIdentifier name) :
      NetEntry kind origin c name c [d]

/-- **What becomes of a declared instance**: the four cases in the order in which they are
looked at. -/
inductive InstanceEntry (library : Library) (index : Nat) (c : Chip) (p : InstancePlan) :
    Chip → List Diagnostic → Prop where
  /-- The library does not have the component. -/
  | unknownComponent (component : library.get? p.component = none) :
      InstanceEntry library index c p c
        [unknownComponent (Manifest.instanceOrigin index) p.component]
  /-- Some of the names are no nets. Each of them is reported as often as it is written. -/
  | unknownNets {d : Component} {names : List String}
      (component : library.get? p.component = some d)
      (unknown : names = p.writtenNets.filter fun name => (c.findNet? name).isNone)
      (some_unknown : names ≠ []) :
      InstanceEntry library index c p c
        (names.map (unknownNet (Manifest.instanceOrigin index)))
  /-- The instance cannot be added. -/
  | refused {d : Component} {e : NetlistError}
      (component : library.get? p.component = some d)
      (known : ∀ name ∈ p.writtenNets, (c.findNet? name).isSome = true)
      (error : (connect c d p.binding).outcome = .error e) :
      InstanceEntry library index c p c
        [e.toDiagnostic.withNote (originNote (Manifest.instanceOrigin index))]
  /-- One instance is registered, as declared. -/
  | registered {c' : Chip} {w : Placement}
      (component : library.get? p.component = some w.component)
      (known : ∀ name ∈ p.writtenNets, (c.findNet? name).isSome = true)
      (honours : p.Honours w)
      (design : c'.design = ⟨c.design.nets, c.design.placements ++ [w]⟩) :
      InstanceEntry library index c p c' []

/-- **Entries are taken one after the other**, counted from `index`, and what each of them reports
is all that is reported. -/
inductive InOrder {α : Type} (Entry : Nat → Chip → α → Chip → List Diagnostic → Prop) :
    Nat → Chip → List α → Chip → List Diagnostic → Prop where
  | nil {index : Nat} {c : Chip} : InOrder Entry index c [] c []
  | cons {index : Nat} {c c' c'' : Chip} {x : α} {xs : List α} {ds ds' : List Diagnostic}
      (first : Entry index c x c' ds) (rest : InOrder Entry (index + 1) c' xs c'' ds') :
      InOrder Entry index c (x :: xs) c'' (ds ++ ds')

/-! ### One entry -/

/-- What one entry does to a build: the chip keeps its invariant, and the reports are added. -/
def Accounts {α : Type} (Inv : Chip → Prop)
    (Entry : Nat → Chip → α → Chip → List Diagnostic → Prop) (index : Nat) (b : Build) (x : α)
    (b' : Build) : Prop :=
  Inv b'.chip ∧ ∃ ds, b'.diagnostics = b.diagnostics ++ ds ∧ Entry index b.chip x b'.chip ds

/-- A step that is taken over has been reported if it was refused. -/
theorem accounts_take {α β : Type} {Inv : Chip → Prop}
    {Entry : Nat → Chip → α → Chip → List Diagnostic → Prop} {index : Nat} {b : Build} {x : α}
    {origin : String} {s : Chip.Step β} (h : Inv b.chip) (hs : s.AllOrNothing b.chip)
    (hok : ∀ y, s.outcome = .ok y → Inv s.chip ∧ Entry index b.chip x s.chip [])
    (herror : ∀ e, s.outcome = .error e →
      Entry index b.chip x b.chip [e.toDiagnostic.withNote (originNote origin)]) :
    Accounts Inv Entry index b x (b.take origin s) := by
  have hreports :
      (b.take origin s).diagnostics = b.diagnostics ++ stepDiagnostics origin s.outcome := rfl
  have hchip : (b.take origin s).chip = s.chip := rfl
  rw [Accounts, hreports, hchip]
  cases houtcome : s.outcome with
  | ok y =>
    obtain ⟨hinv, hentry⟩ := hok y houtcome
    exact ⟨hinv, [], rfl, hentry⟩
  | error e =>
    -- what is refused leaves the chip alone
    rw [hs.chip_eq houtcome]
    exact ⟨h, _, rfl, herror e houtcome⟩

/-- The name of a net is accounted for. -/
theorem accounts_addNet (kind : NetKind) (origin : String) (index : Nat) {b : Build}
    (h : HasOnlyNets b.chip) (name : String) :
    Accounts HasOnlyNets (fun _ => NetEntry kind origin) index b name
      (Build.addNet kind origin index b name) := by
  -- creating the net is one step, which either has its whole effect or none
  refine accounts_take h (b.chip.createNet_allOrNothing name kind) ?_ ?_
  · intro id hok
    obtain ⟨hchip, hname, hfree⟩ := Chip.createNet_of_ok hok
    rw [hchip]
    exact ⟨h.withNet hname hfree, .created (Chip.design_withNet h.named h.wired name kind)⟩
  · intro e herror
    have hnote : ∀ d : Diagnostic, originNote origin ∈ (d.withNote (originNote origin)).notes :=
      fun d => List.mem_append_right _ List.mem_cons_self
    rcases Chip.createNet_of_error herror with ⟨hflaw, reason, rfl⟩ | ⟨s, hs, htaken, rfl⟩
    · exact .invalid rfl rfl (hnote _) hflaw
    · exact .taken rfl rfl (hnote _) ⟨s, hs, htaken⟩

/-- A declared instance is accounted for, if it gives its nets in one way. -/
theorem accounts_addInstance (library : Library) {nets : List (String × NetKind)} (index : Nat)
    {b : Build} (h : HasNets nets b.chip) {p : InstancePlan} (hp : p.GivesOneWay) :
    Accounts (HasNets nets) (InstanceEntry library) index b p (b.addInstance library index p) := by
  unfold Build.addInstance
  cases hcomponent : library.get? p.component with
  | none => exact ⟨h, _, rfl, .unknownComponent hcomponent⟩
  | some d =>
    dsimp only
    have hunknown : unknownNets b.chip (Manifest.instanceOrigin index) (boundNames p.binding) =
        (p.writtenNets.filter fun name => (b.chip.findNet? name).isNone).map
          (unknownNet (Manifest.instanceOrigin index)) := by
      rw [unknownNets, hp.boundNames_eq]
    split
    · next hnil =>
      -- every name is known, so the instance is tried
      have hknown := List.all_eq_true.1 (Build.unknownNets_eq_nil_iff.1 hnil)
      have hwritten := hp.boundNames_eq ▸ hknown
      refine accounts_take h (Build.connect_allOrNothing b.chip d p.binding) ?_ ?_
      · intro id hok
        have htry : tryInstance library b.chip p = some (connect b.chip d p.binding).chip :=
          tryInstance_eq_some_iff.2 ⟨d, hcomponent, hknown, ⟨id, hok⟩, rfl⟩
        obtain ⟨h', w, hasks, hplacements⟩ := (carriesOut_instances library nets).of_some h htry
        have hdesign : (connect b.chip d p.binding).chip.design =
            ⟨b.chip.design.nets, b.chip.design.placements ++ [w]⟩ :=
          congrArg₂ Design.mk (h'.nets_eq.trans h.nets_eq.symm) hplacements
        -- the design is sound, so the placement has a net for every port
        have harity := h'.sound.arity w (hdesign ▸ List.mem_concat_self)
        refine ⟨h', .registered hasks.component hwritten (hp.honours hasks fun dir => ?_) hdesign⟩
        cases dir with
        | input => exact (Prod.mk.inj harity).1
        | output => exact (Prod.mk.inj harity).2
      · intro e herror
        exact .refused hcomponent hwritten herror
    · next hsome =>
      refine ⟨h, _, rfl, ?_⟩
      rw [hunknown]
      refine .unknownNets hcomponent rfl fun hnil => ?_
      rw [hunknown, hnil] at hsome
      exact hsome rfl

/-! ### All entries -/

/-- **If every entry is accounted for, the list is**, entry by entry and in order. -/
theorem accounts_addAll {α : Type} {add : Nat → Build → α → Build} {Inv : Chip → Prop}
    {Entry : Nat → Chip → α → Chip → List Diagnostic → Prop} {xs : List α}
    (hadd : ∀ x ∈ xs, ∀ index b, Inv b.chip → Accounts Inv Entry index b x (add index b x))
    (index : Nat) {b : Build} (h : Inv b.chip) :
    Inv (Build.addAll add index xs b).chip ∧
      ∃ ds, (Build.addAll add index xs b).diagnostics = b.diagnostics ++ ds ∧
        InOrder Entry index b.chip xs (Build.addAll add index xs b).chip ds := by
  -- the invariant is what an entry leaves for those behind it
  induction xs generalizing index b with
  | nil => exact ⟨h, [], (List.append_nil _).symm, .nil⟩
  | cons x xs ih =>
    obtain ⟨hfirst, ds, hds, hentry⟩ := hadd x List.mem_cons_self index b h
    obtain ⟨hrest, ds', hds', hentries⟩ :=
      ih (fun y hy => hadd y (List.mem_cons_of_mem _ hy)) (index + 1) hfirst
    refine ⟨hrest, ds ++ ds', ?_, .cons hentry hentries⟩
    rw [Build.addAll, hds', hds, List.append_assoc]

/-- **Every entry of a plan is accounted for**: inputs, outputs, wires, and then instances. -/
def AccountedFor (library : Library) (plan : ChipPlan) (c c' : Chip) (ds : List Diagnostic) :
    Prop :=
  ∃ c₁ c₂ c₃ ds₁ ds₂ ds₃ ds₄,
    InOrder (fun _ => NetEntry .boundaryInput "chip.inputs") 0 c plan.inputs c₁ ds₁ ∧
    InOrder (fun _ => NetEntry .boundaryOutput "chip.outputs") 0 c₁ plan.outputs c₂ ds₂ ∧
    InOrder (fun _ => NetEntry .internal "chip.wires") 0 c₂ plan.wires c₃ ds₃ ∧
    InOrder (InstanceEntry library) 0 c₃ plan.instances c' ds₄ ∧
    ds = ds₁ ++ ds₂ ++ ds₃ ++ ds₄

/-- Every name of a list of nets is accounted for. -/
theorem accounts_addNets (kind : NetKind) (origin : String) (names : List String) {b : Build}
    (h : HasOnlyNets b.chip) :
    HasOnlyNets (Build.addNets kind origin names b).chip ∧
      ∃ ds, (Build.addNets kind origin names b).diagnostics = b.diagnostics ++ ds ∧
        InOrder (fun _ => NetEntry kind origin) 0 b.chip names
          (Build.addNets kind origin names b).chip ds := by
  rw [Build.addNets_eq_addAll kind origin 0]
  exact accounts_addAll (fun name _ index b hb => accounts_addNet kind origin index hb name) 0 h

/-- The build from an empty chip accounts for the whole plan. -/
theorem buildFrom_accountedFor (library : Library) {plan : ChipPlan}
    (hplan : ∀ p ∈ plan.instances, p.GivesOneWay) {name : String} (hname : IsIdentifier name) :
    AccountedFor library plan ⟨name, .empty, .empty, .empty⟩
      (buildFrom library plan ⟨name, .empty, .empty, .empty⟩).chip
      (buildFrom library plan ⟨name, .empty, .empty, .empty⟩).diagnostics := by
  -- the four loops one after the other, each from the chip that the last one has left
  have hstart : HasOnlyNets (⟨⟨name, .empty, .empty, .empty⟩, [], []⟩ : Build).chip := .empty hname
  obtain ⟨hinputs, ds₁, hds₁, h₁⟩ :=
    accounts_addNets .boundaryInput "chip.inputs" plan.inputs hstart
  obtain ⟨houtputs, ds₂, hds₂, h₂⟩ :=
    accounts_addNets .boundaryOutput "chip.outputs" plan.outputs hinputs
  obtain ⟨hwires, ds₃, hds₃, h₃⟩ := accounts_addNets .internal "chip.wires" plan.wires houtputs
  obtain ⟨-, ds₄, hds₄, h₄⟩ := accounts_addAll
    (fun p hp index _ hb => accounts_addInstance library index hb (hplan p hp)) 0 hwires.hasNets
  rw [← Build.addInstances_eq_addAll] at hds₄ h₄
  refine ⟨_, _, _, ds₁, ds₂, ds₃, ds₄, h₁, h₂, h₃, h₄, ?_⟩
  rw [buildFrom, hds₄, hds₃, hds₂, hds₁, List.nil_append]

end Project

/-! ### The chip of a manifest without reports -/

namespace Chip

open Component (side)

/-- **The chip is what the plan says.** -/
structure Realises (library : Library) (plan : ChipPlan) (c : Chip) : Prop where
  /-- Nets are numbered and named as they are listed: inputs, outputs, wires. -/
  netNames : ∀ k, (c.net? ⟨k⟩).map c.nameOf = (plan.inputs ++ plan.outputs ++ plan.wires)[k]?
  netKinds : ∀ k, (c.net? ⟨k⟩).map Net.kind = (plan.nets.map (·.2))[k]?
  /-- There is an instance for each declaration. -/
  instanceCount_eq : c.instanceCount = plan.instances.length
  component : ∀ {j p i}, plan.instances[j]? = some p → c.instance? ⟨j⟩ = some i →
    library.get? p.component = some i.component
  /-- Every port has a net. -/
  length_eq : ∀ {j p i}, plan.instances[j]? = some p → c.instance? ⟨j⟩ = some i → ∀ dir,
    (side i.inputs i.outputs dir).length = (i.component.ports dir).length
  /-- The net at a port is the one that the declaration names for it. -/
  connected : ∀ {j p i}, plan.instances[j]? = some p → c.instance? ⟨j⟩ = some i → ∀ dir k id,
    (side i.inputs i.outputs dir)[k]? = some id ↔
      ∃ net, p.Names i.component dir k net ∧ c.findNet? net = some id

section Realising

variable {c : Chip} {library : Library} {plan : ChipPlan}

/-- The nets of a side of an instance, by name. -/
theorem side_placementOf (c : Chip) (i : Instance) (dir : PortDirection) :
    side (c.placementOf i).inputs (c.placementOf i).outputs dir =
      (side i.inputs i.outputs dir).map c.netName := by
  cases dir <;> rfl

/-- What stands at a port is a net, and it is found under its name. -/
theorem Legible.findNet?_netName (h : c.Legible) {j : Nat} {i : Instance}
    (hi : c.instance? ⟨j⟩ = some i) {dir : PortDirection} {id : NetId}
    (hid : id ∈ side i.inputs i.outputs dir) : c.findNet? (c.netName id) = some id := by
  have hexists : ∃ n, c.net? id = some n := by
    cases dir with
    | input => exact h.wired.exists_net (s := .load) hi hid
    | output => exact h.wired.exists_net (s := .driver) hi hid
  obtain ⟨n, hn⟩ := hexists
  exact h.findNet?_eq_some_iff.2 ⟨n, hn, (netName_eq hn).symm⟩

/-- The instance at a position honours the declaration at this position. -/
theorem placementOf_honours (h : c.Legible) (hplan : ∀ p ∈ plan.instances, p.GivesOneWay)
    (hasks : plan.AsksFor library c.design) {j : Nat} {p : InstancePlan} {i : Instance}
    (hp : plan.instances[j]? = some p) (hi : c.instance? ⟨j⟩ = some i) :
    library.get? p.component = some i.component ∧ p.Honours (c.placementOf i) := by
  have hplacement : c.design.placements[j]? = some (c.placementOf i) := by
    have hget : c.instances.toList[j]? = some i := hi
    rw [design, List.getElem?_map, hget, Option.map_some]
  obtain ⟨hj, rfl⟩ := List.getElem?_eq_some_iff.1 hp
  obtain ⟨hj', hplacement⟩ := List.getElem?_eq_some_iff.1 hplacement
  -- declarations and placements correspond one by one
  have hask : plan.instances[j].AsksFor library (c.placementOf i) :=
    hplacement ▸ hasks.placements.get hj hj'
  refine ⟨hask.component, (hplan _ (List.getElem_mem hj)).honours hask fun dir => ?_⟩
  have harity : (i.inputs.length, i.outputs.length) = i.component.arity := h.wired.arity hi
  rw [side_placementOf, List.length_map]
  cases dir with
  | input => exact (Prod.mk.inj harity).1
  | output => exact (Prod.mk.inj harity).2

/-- A chip with the design that a plan asks for is what the plan says. -/
theorem Legible.realises (h : c.Legible) (hplan : ∀ p ∈ plan.instances, p.GivesOneWay)
    (hasks : plan.AsksFor library c.design) : c.Realises library plan where
  netNames k := by
    have hnames : plan.nets.map (·.1) = plan.inputs ++ plan.outputs ++ plan.wires := by
      simp [ChipPlan.nets, Function.comp_def]
    rw [← hnames, ← hasks.nets, design, List.map_map, List.getElem?_map]
    rfl
  netKinds k := by
    rw [← hasks.nets, design, List.map_map, List.getElem?_map]
    rfl
  instanceCount_eq := by
    rw [hasks.placements.length_eq, design, List.length_map]
    rfl
  component hp hi := (placementOf_honours h hplan hasks hp hi).1
  length_eq hp hi dir := by
    have hlength := (placementOf_honours h hplan hasks hp hi).2.length_eq dir
    rwa [side_placementOf, List.length_map] at hlength
  connected {j p i} hp hi dir k id := by
    have hnames := (placementOf_honours h hplan hasks hp hi).2.names_iff dir k
    constructor
    · intro hid
      -- the name is that of the net
      refine ⟨c.netName id, (hnames _).1 ?_, h.findNet?_netName hi (List.mem_of_getElem? hid)⟩
      rw [side_placementOf, List.getElem?_map, hid, Option.map_some]
    · rintro ⟨net, hnet, hfound⟩
      have hat := (hnames net).2 hnet
      rw [side_placementOf, List.getElem?_map] at hat
      obtain ⟨id', hid', rfl⟩ := Option.map_eq_some_iff.1 hat
      -- both numbers are found under the same name
      rw [h.findNet?_netName hi (List.mem_of_getElem? hid')] at hfound
      rw [hid', hfound]

end Realising

end Chip

namespace Project

/-- **A manifest is accounted for.** If it has no problem and its project is named by an identifier,
then its chip is built; every entry of its lists is gone through once and in order, and makes
something of the chip or is reported; and when nothing has been reported, the chip is what the
manifest says. -/
theorem buildChip_accountedFor {m : Manifest} (library : Library) (hm : m.problem? = none)
    (hname : IsIdentifier m.project.name) :
    ∃ c, (buildChip m library).chip = some c ∧
      AccountedFor library m.chip ⟨m.project.name, .empty, .empty, .empty⟩ c
        (buildChip m library).diagnostics ∧
      ((buildChip m library).diagnostics = [] → c.Realises library m.chip) := by
  have hplan := Manifest.givesOneWay_of_problem? hm
  obtain ⟨hchip, hdiagnostics⟩ := buildChip_of_isIdentifier library hname
  refine ⟨_, hchip, ?_, fun hquiet => ?_⟩
  · rw [hdiagnostics]
    exact buildFrom_accountedFor library hplan hname
  · -- nothing was reported, so the design is what the plan asks for
    obtain ⟨hasks, -, hlegible⟩ :=
      buildFrom_of_clean hname (Build.clean?_eq_some_iff.2 ⟨hdiagnostics.symm.trans hquiet, rfl⟩)
    exact hlegible.realises hplan hasks

/-- The faulty manifest is accounted for by six reports; the chain has none, and its chip is what it
says. -/
theorem buildChip_accountedFor_faulty_chain :
    (faultyManifest.problem? = none ∧ IsIdentifier faultyManifest.project.name ∧
      (buildChip faultyManifest adderLibrary).diagnostics.map (·.code.number) =
        [304, 305, 304, 308, 309, 303] ∧
      ∃ c, AccountedFor adderLibrary faultyManifest.chip ⟨"broken", .empty, .empty, .empty⟩ c
        (buildChip faultyManifest adderLibrary).diagnostics) ∧
    chainManifest.problem? = none ∧ IsIdentifier chainManifest.project.name ∧
      ∃ c, (buildChip chainManifest adderLibrary).chip = some c ∧
        c.Realises adderLibrary chainManifest.chip := by
  have hfaulty : faultyManifest.problem? = none := by decide
  have hchain : chainManifest.problem? = none := by decide
  obtain ⟨c, -, haccounted, -⟩ := buildChip_accountedFor adderLibrary hfaulty (by decide)
  obtain ⟨c', hchip, -, hrealises⟩ := buildChip_accountedFor adderLibrary hchain (by decide)
  have hquiet : (buildChip chainManifest adderLibrary).diagnostics = [] := rfl
  exact ⟨⟨hfaulty, by decide, rfl, c, haccounted⟩, hchain, by decide, c', hchip, hrealises hquiet⟩

end Project

end Netlist
