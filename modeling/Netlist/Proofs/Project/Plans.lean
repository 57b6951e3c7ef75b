import Mathlib.Data.List.Forall2
import Netlist.Proofs.Chip.Design
import Netlist.Proofs.Chip.Ports
import Netlist.Proofs.Project.Entries

/-!
# Which plans are accepted, and what they build

The entries of a plan are tried one after the other, each against what those before it have left.
This file says the same without any order. A plan asks for a design: for its nets, and for a
placement for each declared instance (`ChipPlan.AsksFor`). A design is `Sound` when no two of its
signals and no two of its ends are the same, and what its placements name is there. A plan that is
carried out without a diagnostic builds a sound design that it asks for (`buildFrom_of_clean`), and
a plan that asks for a sound design is carried out without a diagnostic (`buildFrom_of_sound`).

Nets and instances are handled alike. `CarriesOut` says what it takes for one kind of entry to add
to a design what it asks for, as long as the design stays sound; the two inductions over a list of
entries are made once, for every such kind.
-/

namespace Netlist

/-! ### Sound designs -/

namespace Design

/-- Nets that can stand side by side in one module. -/
structure SoundNets (nets : List (String × NetKind)) : Prop where
  identifiers : ∀ net ∈ nets, IsIdentifier net.1
  /-- No signal belongs to two nets. -/
  signals_nodup : (nets.flatMap fun net => handshake net.1).Nodup

/-- **A design that is free of conflicts.** -/
structure Sound (ds : Design) : Prop extends SoundNets ds.nets where
  arity : ∀ p ∈ ds.placements, (p.inputs.length, p.outputs.length) = p.component.arity
  components : ∀ p ∈ ds.placements, IsIdentifier p.component.name
  /-- No end is held by two instances, or twice by one. -/
  ends_nodup : ds.ends.Nodup
  /-- What is held are inner ends of nets. -/
  ends_inner : ∀ e ∈ ds.ends, ∃ kind : NetKind, (e.1, kind) ∈ ds.nets ∧ kind.outerEnd? ≠ some e.2

variable {nets nets' : List (String × NetKind)} {ps ps' : List Placement}

/-- Some nets of sound ones are sound. -/
theorem SoundNets.of_append (h : SoundNets (nets ++ nets')) : SoundNets nets where
  identifiers net hnet := h.identifiers net (List.mem_append_left _ hnet)
  signals_nodup := by
    have hnodup := h.signals_nodup
    rw [List.flatMap_append] at hnodup
    exact (List.nodup_append.1 hnodup).1

/-- A net is welcome when it is named by an identifier and its signals are new. -/
theorem soundNets_concat_iff {net : String × NetKind} :
    SoundNets (nets ++ [net]) ↔ SoundNets nets ∧ IsIdentifier net.1 ∧
      ∀ s ∈ handshake net.1, s ∉ nets.flatMap fun net => handshake net.1 := by
  constructor
  · intro h
    have hnodup := h.signals_nodup
    rw [List.flatMap_append, List.flatMap_singleton] at hnodup
    refine ⟨h.of_append, h.identifiers net List.mem_concat_self, fun s hs hmem => ?_⟩
    exact (List.nodup_append.1 hnodup).2.2 s hmem s hs rfl
  · -- the signals of a single net differ, so only others can be in the way
    rintro ⟨h, hname, hnew⟩
    refine ⟨List.forall_mem_append.2 ⟨h.identifiers, List.forall_mem_singleton.2 hname⟩, ?_⟩
    rw [List.flatMap_append, List.flatMap_singleton]
    refine List.nodup_append.2 ⟨h.signals_nodup, nodup_handshake net.1, fun s hs t ht heq => ?_⟩
    exact hnew t ht (heq ▸ hs)

/-- Nets alone cannot be in conflict over their ends. -/
theorem SoundNets.sound (h : SoundNets nets) : Sound ⟨nets, []⟩ where
  toSoundNets := h
  arity _ hp := absurd hp List.not_mem_nil
  components _ hp := absurd hp List.not_mem_nil
  ends_nodup := List.nodup_nil
  ends_inner _ he := absurd he List.not_mem_nil

theorem ends_append (nets : List (String × NetKind)) (ps ps' : List Placement) :
    ends ⟨nets, ps ++ ps'⟩ = ends ⟨nets, ps⟩ ++ ends ⟨nets, ps'⟩ :=
  List.flatMap_append

theorem ends_singleton (nets : List (String × NetKind)) (p : Placement) :
    ends ⟨nets, [p]⟩ = p.ends :=
  List.flatMap_singleton ..

/-- Fewer placements cannot be in conflict. -/
theorem Sound.of_append (h : Sound ⟨nets, ps ++ ps'⟩) : Sound ⟨nets, ps⟩ where
  toSoundNets := h.toSoundNets
  arity p hp := h.arity p (List.mem_append_left _ hp)
  components p hp := h.components p (List.mem_append_left _ hp)
  ends_nodup := by
    have hnodup := h.ends_nodup
    rw [ends_append] at hnodup
    exact (List.nodup_append.1 hnodup).1
  ends_inner e he := h.ends_inner e (ends_append nets ps ps' ▸ List.mem_append_left _ he)

/-- A placement is welcome when the design accepts it. -/
theorem sound_concat_iff {p : Placement} :
    Sound ⟨nets, ps ++ [p]⟩ ↔ Sound ⟨nets, ps⟩ ∧ Accepts ⟨nets, ps⟩ p := by
  have hends : ends ⟨nets, ps ++ [p]⟩ = ends ⟨nets, ps⟩ ++ p.ends := by
    rw [ends_append, ends_singleton]
  constructor
  · intro h
    have hp : p ∈ ps ++ [p] := List.mem_concat_self
    have hnodup := h.ends_nodup
    rw [hends] at hnodup
    obtain ⟨-, hown, hdisjoint⟩ := List.nodup_append.1 hnodup
    refine ⟨h.of_append, h.arity p hp, h.components p hp, hown, fun e he => ⟨?_, fun hmem => ?_⟩⟩
    · exact h.ends_inner e (hends ▸ List.mem_append_right _ he)
    · exact hdisjoint e hmem e he rfl
  · -- what the placement holds is neither held twice by itself nor by those in front
    rintro ⟨h, haccepts⟩
    refine ⟨h.toSoundNets,
      List.forall_mem_append.2 ⟨h.arity, List.forall_mem_singleton.2 haccepts.arity⟩,
      List.forall_mem_append.2 ⟨h.components, List.forall_mem_singleton.2 haccepts.name⟩, ?_, ?_⟩
    · rw [hends]
      refine List.nodup_append.2 ⟨h.ends_nodup, haccepts.nodup, fun e he e' he' heq => ?_⟩
      exact (haccepts.free e' he').2 (heq ▸ he)
    · rw [hends]
      exact List.forall_mem_append.2 ⟨h.ends_inner, fun e he => (haccepts.free e he).1⟩

end Design

/-! ### What a plan asks for -/

/-- The nets of a plan, in the order of their creation. -/
def ChipPlan.nets (plan : ChipPlan) : List (String × NetKind) :=
  plan.inputs.map (·, .boundaryInput) ++ plan.outputs.map (·, .boundaryOutput) ++
    plan.wires.map (·, .internal)

/-- The nets that a binding gives to the inputs and outputs of a component. -/
def NetBinding.Gives (d : Component) : NetBinding → List String → List String → Prop
  | .positional ins outs, inputs, outputs => inputs = ins ∧ outputs = outs
  | .named connections, inputs, outputs => d.Connects connections inputs outputs

/-- The placement that a declared instance asks for. -/
structure InstancePlan.AsksFor (library : Library) (p : InstancePlan) (w : Placement) : Prop where
  component : library.get? p.component = some w.component
  binding : p.binding.Gives w.component w.inputs w.outputs

/-- **The design that a plan asks for.** -/
structure ChipPlan.AsksFor (library : Library) (plan : ChipPlan) (ds : Design) : Prop where
  nets : ds.nets = plan.nets
  placements : List.Forall₂ (InstancePlan.AsksFor library) plan.instances ds.placements

namespace Project

/-! ### Carrying out a list of entries -/

/-- **One kind of entry, read as an addition to a list.** While `Inv` holds of the chip, an accepted
entry adds what it asks for to the list that `view` shows, and an entry is accepted if the list
remains `Ok`. -/
structure CarriesOut {α β : Type} (attempt : Chip → α → Option Chip) (Inv : Chip → Prop)
    (asks : α → β → Prop) (view : Chip → List β) (Ok : List β → Prop) : Prop where
  of_some : ∀ {c c' x}, Inv c → attempt c x = some c' →
    Inv c' ∧ ∃ w, asks x w ∧ view c' = view c ++ [w]
  exists_some : ∀ {c x w}, Inv c → asks x w → Ok (view c ++ [w]) →
    ∃ c', attempt c x = some c' ∧ Inv c' ∧ view c' = view c ++ [w]
  of_append : ∀ {ws ws'}, Ok (ws ++ ws') → Ok ws

section Lists

variable {α β : Type} {attempt : Chip → α → Option Chip} {Inv : Chip → Prop}
  {asks : α → β → Prop} {view : Chip → List β} {Ok : List β → Prop}

/-- A list that is accepted adds what its entries ask for. -/
theorem CarriesOut.foldlM_of_some (h : CarriesOut attempt Inv asks view Ok) {xs : List α}
    {c c' : Chip} (hc : Inv c) (hrun : xs.foldlM attempt c = some c') :
    Inv c' ∧ ∃ ws, List.Forall₂ asks xs ws ∧ view c' = view c ++ ws := by
  -- entry by entry, and each leaves a chip with the invariant for the next
  induction xs generalizing c with
  | nil =>
    obtain rfl : c = c' := Option.some.inj hrun
    exact ⟨hc, [], .nil, (List.append_nil _).symm⟩
  | cons x xs ih =>
    rw [List.foldlM_cons] at hrun
    obtain ⟨c₁, hfirst, hrest⟩ := Option.bind_eq_some_iff.1 hrun
    obtain ⟨hc₁, w, hw, hview⟩ := h.of_some hc hfirst
    obtain ⟨hc', ws, hws, hview'⟩ := ih hc₁ hrest
    refine ⟨hc', w :: ws, .cons hw hws, ?_⟩
    rw [hview', hview, List.append_assoc, List.singleton_append]

/-- A list whose entries ask for what is `Ok` is accepted. -/
theorem CarriesOut.foldlM_exists_some (h : CarriesOut attempt Inv asks view Ok) {xs : List α}
    {ws : List β} {c : Chip} (hc : Inv c) (hws : List.Forall₂ asks xs ws)
    (hok : Ok (view c ++ ws)) :
    ∃ c', xs.foldlM attempt c = some c' ∧ Inv c' ∧ view c' = view c ++ ws := by
  -- on the entries and what they ask for; that the whole list is `Ok` covers each beginning of it
  induction hws generalizing c with
  | nil => exact ⟨c, rfl, hc, (List.append_nil _).symm⟩
  | @cons x w xs ws hw _ ih =>
    rw [List.append_cons] at hok ⊢
    -- with what the first entry asks for, the list is still the beginning of an `Ok` one
    obtain ⟨c₁, hfirst, hc₁, hview⟩ := h.exists_some hc hw (h.of_append hok)
    rw [← hview] at hok ⊢
    obtain ⟨c', hrest, hc', hview'⟩ := ih hc₁ hok
    refine ⟨c', ?_, hc', hview'⟩
    rw [List.foldlM_cons, hfirst]
    exact hrest

end Lists

/-! ### Nets -/

/-- A chip of which only nets have been made so far. -/
structure HasOnlyNets (c : Chip) : Prop where
  named : c.Named
  wired : c.Wired
  separate : c.Separate
  instances : c.instances = .empty
  sound : Design.SoundNets c.design.nets

theorem HasOnlyNets.empty {name : String} (h : IsIdentifier name) :
    HasOnlyNets ⟨name, .empty, .empty, .empty⟩ where
  named := .empty h
  wired := .empty name
  separate := .empty name
  instances := rfl
  sound := ⟨fun _ hnet => absurd hnet List.not_mem_nil, List.nodup_nil⟩

/-- All names are taken by signals. -/
theorem HasOnlyNets.mem_names_iff {c : Chip} (h : HasOnlyNets c) {s : String} :
    s ∈ c.names.toList ↔ s ∈ c.design.nets.flatMap fun net => handshake net.1 := by
  -- there is no instance whose name could be among them
  have hnames : c.instanceNames = [] := by
    rw [Chip.instanceNames, h.instances]
    rfl
  have hnets :
      (c.design.nets.flatMap fun net => handshake net.1) = c.netNames.flatMap handshake := by
    rw [Chip.netNames, List.flatMap_map]
    exact List.flatMap_map ..
  rw [h.separate.perm.mem_iff, hnames, List.append_nil, hnets]

/-- A further net leaves nothing but nets. -/
theorem HasOnlyNets.withNet {c : Chip} (h : HasOnlyNets c) {name : String} {kind : NetKind}
    (hname : IsIdentifier name) (hfree : ∀ s ∈ handshake name, s ∉ c.names.toList) :
    HasOnlyNets (c.withNet name kind) where
  named := h.named.withNet kind hname
  wired := h.wired.withNet name kind
  separate := h.separate.withNet h.named kind hfree
  instances := h.instances
  sound := by
    rw [Chip.design_withNet h.named h.wired]
    exact Design.soundNets_concat_iff.2
      ⟨h.sound, hname, fun s hs hmem => hfree s hs (h.mem_names_iff.2 hmem)⟩

/-- The names of nets make the nets of the design. -/
theorem carriesOut_nets : CarriesOut (fun c net => tryNet net.2 c net.1) HasOnlyNets Eq
    (fun c => c.design.nets) Design.SoundNets where
  of_some {c c' net} h htry := by
    obtain ⟨⟨id, hid⟩, rfl⟩ := Chip.Step.accepted?_eq_some_iff.1 htry
    obtain ⟨hchip, hname, hfree⟩ := Chip.createNet_of_ok hid
    rw [hchip, Chip.design_withNet h.named h.wired]
    exact ⟨h.withNet hname hfree, net, rfl, rfl⟩
  exists_some {c net net'} h heq hsound := by
    subst heq
    obtain ⟨-, hname, hnew⟩ := Design.soundNets_concat_iff.1 hsound
    have hfree : ∀ s ∈ handshake net.1, s ∉ c.names.toList :=
      fun s hs hmem => hnew s hs (h.mem_names_iff.1 hmem)
    obtain ⟨id, hid⟩ := Chip.createNet_ok_iff.2 ⟨hname, hfree⟩
    refine ⟨c.withNet net.1 net.2, ?_, h.withNet hname hfree, ?_⟩
    · exact Chip.Step.accepted?_eq_some_iff.2 ⟨⟨id, hid⟩, (Chip.createNet_of_ok hid).1⟩
    · rw [Chip.design_withNet h.named h.wired]
  of_append := Design.SoundNets.of_append

/-! ### Instances -/

/-- A chip whose design is free of conflicts, with the given nets. -/
structure HasNets (nets : List (String × NetKind)) (c : Chip) : Prop where
  legible : c.Legible
  nets_eq : c.design.nets = nets
  sound : c.design.Sound

theorem HasOnlyNets.placements_eq {c : Chip} (h : HasOnlyNets c) : c.design.placements = [] := by
  rw [Chip.design, h.instances]
  rfl

theorem HasOnlyNets.hasNets {c : Chip} (h : HasOnlyNets c) : HasNets c.design.nets c where
  legible := h.separate.legible h.named h.wired
  nets_eq := rfl
  sound := by
    have hdesign : c.design = ⟨c.design.nets, []⟩ := congrArg (Design.mk _) h.placements_eq
    rw [hdesign]
    exact h.sound.sound

/-- An instance that is added leaves the nets and adds its placement. -/
theorem HasNets.instantiate {nets : List (String × NetKind)} {c : Chip} (h : HasNets nets c)
    {d : Component} {inputs outputs : List NetId} {id : InstanceId}
    (hok : (c.instantiate d inputs outputs).outcome = .ok id) :
    HasNets nets (c.instantiate d inputs outputs).chip ∧
      (c.instantiate d inputs outputs).chip.design.placements =
        c.design.placements ++ [⟨d, inputs.map c.netName, outputs.map c.netName⟩] := by
  obtain ⟨hfeasible, nets', hpasses, hchip⟩ := Chip.instantiate_of_ok hok
  have hdesign := Chip.design_withInstance h.legible.named hpasses (c.nextInstanceName d) d inputs
    outputs
  -- the instance gets a name, and nothing in the design depends on which
  rw [hchip]
  refine ⟨⟨?_, ?_, ?_⟩, by rw [hdesign]⟩
  · exact h.legible.withInstance (c.isIdentifier_nextInstanceName hfeasible.admissible.name)
      hfeasible hpasses
  · rw [hdesign]
    exact h.nets_eq
  · rw [hdesign]
    exact Design.sound_concat_iff.2 ⟨h.sound, (h.legible.feasible_iff.1 hfeasible).2⟩

section Connecting

variable {c : Chip} {d : Component} {b : NetBinding}

/-- The number of the net with the given name. -/
def numberOf (c : Chip) (name : String) : NetId :=
  (c.findNet? name).getD default

/-- When all names are known, each has its number. -/
theorem netsNamed_eq_map {names : List String}
    (h : ∀ name ∈ names, (c.findNet? name).isSome = true) :
    netsNamed c names = names.map (numberOf c) := by
  have hsome : ∀ name ∈ names, c.findNet? name = some (numberOf c name) := by
    intro name hname
    obtain ⟨id, hid⟩ := Option.isSome_iff_exists.1 (h name hname)
    rw [numberOf, hid, Option.getD_some]
  rw [netsNamed, List.filterMap_congr hsome]
  exact congrFun List.filterMap_eq_map names

/-- The number of a known name is that of a net with this name. -/
theorem net?_numberOf (h : c.Legible) {name : String} (hfound : (c.findNet? name).isSome = true) :
    ∃ n, c.net? (numberOf c name) = some n ∧ c.nameOf n = name := by
  obtain ⟨id, hid⟩ := Option.isSome_iff_exists.1 hfound
  rw [numberOf, hid, Option.getD_some]
  exact h.findNet?_eq_some_iff.1 hid

/-- Numbers are found under names, and stand for them. -/
theorem map_netName_numberOf (h : c.Legible) {names : List String}
    (hfound : ∀ name ∈ names, (c.findNet? name).isSome = true) :
    (names.map (numberOf c)).map c.netName = names := by
  rw [List.map_map]
  refine (List.map_congr_left fun name hname => ?_).trans (List.map_id names)
  obtain ⟨n, hn, hname⟩ := net?_numberOf h (hfound name hname)
  exact (Chip.netName_eq hn).trans hname

theorem numbered_connections {connections : List (String × String)}
    (hfound : ∀ name ∈ boundNames (.named connections), (c.findNet? name).isSome = true) :
    (connections.map (·.1)).zip (netsNamed c (connections.map (·.2))) =
      connections.map fun x => (x.1, numberOf c x.2) := by
  have hnets : netsNamed c (connections.map (·.2)) = (connections.map (·.2)).map (numberOf c) :=
    netsNamed_eq_map hfound
  -- ports and numbers are two columns of one list
  rw [hnets, List.map_map]
  exact List.zip_map'

/-- What is connected are nets that the binding gives. -/
theorem exists_of_connect (h : c.Legible)
    (hfound : ∀ name ∈ boundNames b, (c.findNet? name).isSome = true) {id : InstanceId}
    (hok : (connect c d b).outcome = .ok id) :
    ∃ inputs outputs, b.Gives d (inputs.map c.netName) (outputs.map c.netName) ∧
      connect c d b = c.instantiate d inputs outputs := by
  cases b with
  | positional ins outs =>
    have hins : ∀ name ∈ ins, (c.findNet? name).isSome = true :=
      fun name hname => hfound name (List.mem_append_left _ hname)
    have houts : ∀ name ∈ outs, (c.findNet? name).isSome = true :=
      fun name hname => hfound name (List.mem_append_right _ hname)
    refine ⟨ins.map (numberOf c), outs.map (numberOf c), ?_, ?_⟩
    · exact ⟨map_netName_numberOf h hins, map_netName_numberOf h houts⟩
    · rw [connect, netsNamed_eq_map hins, netsNamed_eq_map houts]
  | named connections =>
    rw [connect, numbered_connections hfound] at hok ⊢
    obtain ⟨inputs, outputs, hplaced, hsame⟩ := Chip.instantiateByName_of_ok hok
    refine ⟨inputs, outputs, ?_, hsame⟩
    have hconnects := (Chip.placePorts_eq_ok_iff.1 hplaced).map c.netName
    -- back from the numbers to the names
    have hnames : (connections.map fun x => (x.1, numberOf c x.2)).map
        (fun x => (x.1, c.netName x.2)) = connections := by
      rw [List.map_map]
      refine (List.map_congr_left fun x hx => ?_).trans (List.map_id connections)
      obtain ⟨n, hn, hname⟩ := net?_numberOf h (hfound x.2 (List.mem_map_of_mem hx))
      exact Prod.ext rfl ((Chip.netName_eq hn).trans hname)
    rwa [hnames] at hconnects

/-- The nets that the binding gives are connected. -/
theorem connect_of_gives (hfound : ∀ name ∈ boundNames b, (c.findNet? name).isSome = true)
    {inputs outputs : List String} (hgives : b.Gives d inputs outputs) :
    connect c d b = c.instantiate d (inputs.map (numberOf c)) (outputs.map (numberOf c)) := by
  cases b with
  | positional ins outs =>
    obtain ⟨rfl, rfl⟩ := hgives
    rw [connect, netsNamed_eq_map fun name hname => hfound name (List.mem_append_left _ hname),
      netsNamed_eq_map fun name hname => hfound name (List.mem_append_right _ hname)]
  | named connections =>
    have hconnects : d.Connects connections inputs outputs := hgives
    rw [connect, numbered_connections hfound, Chip.instantiateByName,
      Chip.placePorts_eq_ok_iff.2 (hconnects.map (numberOf c))]

/-- A binding names the nets that it gives. -/
theorem mem_of_mem_boundNames {inputs outputs : List String} (hgives : b.Gives d inputs outputs)
    {name : String} (hname : name ∈ boundNames b) : name ∈ inputs ++ outputs := by
  cases b with
  | positional ins outs =>
    obtain ⟨rfl, rfl⟩ := hgives
    exact hname
  | named connections =>
    have hconnects : d.Connects connections inputs outputs := hgives
    obtain ⟨x, hx, rfl⟩ := List.mem_map.1 hname
    exact (List.of_mem_zip (hconnects.perm.mem_iff.1 hx)).2

end Connecting

/-- When a declared instance is accepted, and what it makes of the chip. -/
theorem tryInstance_eq_some_iff {library : Library} {c c' : Chip} {p : InstancePlan} :
    tryInstance library c p = some c' ↔ ∃ d, library.get? p.component = some d ∧
      (∀ name ∈ boundNames p.binding, (c.findNet? name).isSome = true) ∧
        (∃ id, (connect c d p.binding).outcome = .ok id) ∧ (connect c d p.binding).chip = c' := by
  unfold tryInstance
  rw [Option.bind_eq_bind, Option.bind_eq_some_iff]
  refine exists_congr fun d => and_congr_right fun _ => ?_
  rw [← Chip.Step.accepted?_eq_some_iff, ← List.all_eq_true]
  split
  · next h => exact (and_iff_right h).symm
  · next h => exact ⟨(nomatch ·), fun e => absurd e.1 h⟩

/-- Free ends belong to nets, which are found under their names. -/
theorem isSome_findNet?_of_accepts {c : Chip} (h : c.Legible) {w : Placement}
    (haccepts : c.design.Accepts w) {name : String} (hname : name ∈ w.inputs ++ w.outputs) :
    (c.findNet? name).isSome = true := by
  obtain ⟨s, hs⟩ : ∃ s, (name, s) ∈ w.ends := by
    rcases List.mem_append.1 hname with hname | hname
    · exact ⟨.load, List.mem_append_left _ (List.mem_map_of_mem hname)⟩
    · exact ⟨.driver, List.mem_append_right _ (List.mem_map_of_mem hname)⟩
  -- the end is one of a net of the design, so there is a net of that name
  obtain ⟨⟨kind, hnet, -⟩, -⟩ := haccepts.free _ hs
  obtain ⟨n, hn, heq⟩ := List.mem_map.1 hnet
  obtain ⟨k, hk⟩ := Arena.mem_toList_iff.1 hn
  rw [h.findNet?_eq_some_iff.2 ⟨n, hk, (Prod.mk.inj heq).1⟩]
  rfl

/-- Declared instances make the placements of the design. -/
theorem carriesOut_instances (library : Library) (nets : List (String × NetKind)) :
    CarriesOut (tryInstance library) (HasNets nets) (InstancePlan.AsksFor library)
      (fun c => c.design.placements) (fun ps => Design.Sound ⟨nets, ps⟩) where
  of_some {c c' p} h htry := by
    obtain ⟨d, hd, hfound, ⟨id, hok⟩, rfl⟩ := tryInstance_eq_some_iff.1 htry
    obtain ⟨inputs, outputs, hgives, hsame⟩ := exists_of_connect h.legible hfound hok
    rw [hsame] at hok ⊢
    obtain ⟨hnets, hplacements⟩ := h.instantiate hok
    exact ⟨hnets, _, ⟨hd, hgives⟩, hplacements⟩
  exists_some {c p w} h hasks hsound := by
    obtain ⟨d, inputs, outputs⟩ := w
    have haccepts : c.design.Accepts ⟨d, inputs, outputs⟩ := by
      have hboth := Design.sound_concat_iff.1 hsound
      rw [← h.nets_eq] at hboth
      exact hboth.2
    have hfound : ∀ name ∈ inputs ++ outputs, (c.findNet? name).isSome = true :=
      fun name hname => isSome_findNet?_of_accepts h.legible haccepts hname
    have hins := map_netName_numberOf h.legible fun name hname =>
      hfound name (List.mem_append_left _ hname)
    have houts := map_netName_numberOf h.legible fun name hname =>
      hfound name (List.mem_append_right _ hname)
    have hfeasible : c.Feasible d (inputs.map (numberOf c)) (outputs.map (numberOf c)) := by
      refine h.legible.feasible_iff.2 ⟨fun id hid => ?_, ?_⟩
      · rw [← List.map_append] at hid
        obtain ⟨name, hname, rfl⟩ := List.mem_map.1 hid
        obtain ⟨n, hn, -⟩ := net?_numberOf h.legible (hfound name hname)
        exact Arena.lt_size_of_get? hn
      · rwa [hins, houts]
    -- so nothing is in the way of the instance
    obtain ⟨id, hok⟩ := Chip.instantiate_ok_iff.2 hfeasible
    obtain ⟨hnets, hplacements⟩ := h.instantiate hok
    have hbound : ∀ name ∈ boundNames p.binding, (c.findNet? name).isSome = true :=
      fun name hname => hfound name (mem_of_mem_boundNames hasks.binding hname)
    have hsame := connect_of_gives hbound hasks.binding
    refine ⟨_, tryInstance_eq_some_iff.2 ⟨d, hasks.component, hbound, ⟨id, ?_⟩, rfl⟩, ?_, ?_⟩
    · rw [hsame]
      exact hok
    · rw [hsame]
      exact hnets
    · rw [hsame, hplacements, hins, houts]
  of_append := Design.Sound.of_append

/-! ### Plans -/

theorem clean?_addNets (kind : NetKind) (origin : String) (names : List String) (b : Build) :
    (Build.addNets kind origin names b).clean? = b.clean? >>= names.foldlM (tryNet kind) := by
  rw [Build.addNets_eq_addAll kind origin 0]
  exact Build.clean?_addAll (Build.tried_addNet kind origin) 0 names b

/-- A plan is carried out without a diagnostic when all its nets and then all its instances can be
added one after the other. -/
theorem clean?_buildFrom (library : Library) (plan : ChipPlan) (c : Chip) :
    (buildFrom library plan c).clean? =
      plan.nets.foldlM (fun c net => tryNet net.2 c net.1) c >>=
        plan.instances.foldlM (tryInstance library) := by
  unfold buildFrom
  rw [Build.addInstances_eq_addAll, Build.clean?_addAll (Build.tried_addInstance library),
    clean?_addNets, clean?_addNets, clean?_addNets, ChipPlan.nets]
  simp only [List.foldlM_append, List.foldlM_map]
  rfl

/-- **A plan that is carried out without a diagnostic** asks for the design of the chip, and the
design is free of conflicts. -/
theorem buildFrom_of_clean {library : Library} {plan : ChipPlan} {name : String} {c : Chip}
    (hname : IsIdentifier name)
    (h : (buildFrom library plan ⟨name, .empty, .empty, .empty⟩).clean? = some c) :
    plan.AsksFor library c.design ∧ c.design.Sound ∧ c.Legible := by
  rw [clean?_buildFrom] at h
  obtain ⟨c₁, hnets, hinstances⟩ := Option.bind_eq_some_iff.1 h
  -- first the nets, on a chip that has none, and then the instances, on a chip with all the nets
  obtain ⟨hc₁, nets, hasked, hview⟩ := carriesOut_nets.foldlM_of_some (.empty hname) hnets
  obtain rfl : plan.nets = nets := List.forall₂_eq_eq_eq ▸ hasked
  obtain ⟨hc, ps, hps, hview'⟩ :=
    (carriesOut_instances library c₁.design.nets).foldlM_of_some hc₁.hasNets hinstances
  obtain rfl : c.design.placements = ps := by
    rw [hview', hc₁.placements_eq, List.nil_append]
  exact ⟨⟨hc.nets_eq.trans hview, hps⟩, hc.sound, hc.legible⟩

/-- **A plan that asks for a sound design** is carried out without a diagnostic, and builds it. -/
theorem buildFrom_of_sound {library : Library} {plan : ChipPlan} {name : String} {ds : Design}
    (hname : IsIdentifier name) (hasks : plan.AsksFor library ds) (hsound : ds.Sound) :
    ∃ c, (buildFrom library plan ⟨name, .empty, .empty, .empty⟩).clean? = some c ∧
      c.design = ds ∧ c.Legible := by
  rw [clean?_buildFrom]
  obtain ⟨nets, ps⟩ := ds
  obtain rfl : nets = plan.nets := hasks.nets
  obtain ⟨c₁, hnets, hc₁, hview⟩ := carriesOut_nets.foldlM_exists_some (.empty hname)
    (List.forall₂_refl plan.nets) hsound.toSoundNets
  replace hview : c₁.design.nets = plan.nets := hview
  -- no instance is there yet, so the instances can be any that the design accepts
  have hstart : HasNets plan.nets c₁ := hview ▸ hc₁.hasNets
  have hsound' : Design.Sound ⟨plan.nets, c₁.design.placements ++ ps⟩ := by
    rwa [hc₁.placements_eq, List.nil_append]
  obtain ⟨c, hinstances, hc, hview'⟩ := (carriesOut_instances library plan.nets).foldlM_exists_some
    hstart hasks.placements hsound'
  rw [hc₁.placements_eq, List.nil_append] at hview'
  refine ⟨c, Option.bind_eq_some_iff.2 ⟨c₁, hnets, hinstances⟩, ?_, hc.legible⟩
  exact congrArg₂ Design.mk hc.nets_eq hview'

end Project

end Netlist
