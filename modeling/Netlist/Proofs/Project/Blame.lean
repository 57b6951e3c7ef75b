import Netlist.Proofs.Chip.Lookups
import Netlist.Proofs.Chip.Mapping
import Netlist.Proofs.Component.Declarations
import Netlist.Proofs.Manifest.Keys
import Netlist.Proofs.Project.Plans

/-!
# What a project can be blamed for

Components are described and a chip is built from whatever a manifest and its files hold. A
diagnostic can be about something that is written there, and `Blames` has the cases. What is not
among them cannot be reported, and three errors of the chip are not: an internal error, a port that
is connected twice, and a name of a component that is no identifier. Each is excluded by something
that has been made sure of elsewhere.

* Numbers of nets come from `findNet?`, which gives those of the chip only (`Wired.lt_of_findNet?`).
* The names in `connect` differ (`Manifest.namesPortsOnce_of_ofText`), and different names are never
  for the same port, whatever ports a component declares (`Chip.placePorts_eq_error_iff`).
* Every component of the library has been through the check of its name
  (`LoadedLibrary.Blameless.names`).

The invariant of the build (`Build.Blameless`) is that the chip keeps its own invariants and that
all diagnostics are among the cases. Entries that are refused leave the chip alone, so nothing has
to be assumed of those in front. The same induction shows that the build with look-ups that fail
(`buildChip?`) has an answer. Loading does not look anything up by a number.
-/

namespace Netlist

/-- The lists of names of nets, with what messages call them. -/
def ChipPlan.netLists (plan : ChipPlan) : List (String × List String) :=
  [("chip.inputs", plan.inputs), ("chip.outputs", plan.outputs), ("chip.wires", plan.wires)]

namespace Project

/-! ### The build with look-ups that fail -/

/-- Adds an instance with nets that all belong to the chip. -/
def connect? (c : Chip) (d : Component) : NetBinding → Option (Chip.Step InstanceId)
  | .positional inputs outputs => c.instantiate? d (netsNamed c inputs) (netsNamed c outputs)
  | .named connections =>
    c.instantiateByName? d ((connections.map (·.1)).zip (netsNamed c (connections.map (·.2))))

/-- Adds a declared instance, if its component and its nets are there. -/
def Build.addInstance? (library : Library) (b : Build) (index : Nat) (p : InstancePlan) :
    Option Build :=
  let origin := Manifest.instanceOrigin index
  match library.get? p.component with
  | none => some (b.report [unknownComponent origin p.component])
  | some d =>
    match unknownNets b.chip origin (boundNames p.binding) with
    | [] => (connect? b.chip d p.binding).map (b.take origin)
    | unknown => some (b.report unknown)

/-- Adds declared instances, counted from `index`. -/
def Build.addInstances? (library : Library) (index : Nat) :
    List InstancePlan → Build → Option Build
  | [], b => some b
  | p :: rest, b => (b.addInstance? library index p).bind (addInstances? library (index + 1) rest)

/-- The chip of a project, built from an empty one. Nets are added without any look-up by number. -/
def buildFrom? (library : Library) (plan : ChipPlan) (c : Chip) : Option Build :=
  Build.addInstances? library 0 plan.instances <|
    Build.addNets .internal "chip.wires" plan.wires <|
    Build.addNets .boundaryOutput "chip.outputs" plan.outputs <|
    Build.addNets .boundaryInput "chip.inputs" plan.inputs ⟨c, [], []⟩

/-- **Builds the chip of a project**, with look-ups that fail. -/
def buildChip? (m : Manifest) (library : Library) : Option BuiltChip :=
  match Chip.new m.project.name with
  | .error e =>
    some ⟨none, [e.toDiagnostic.withNote "the chip is named by `project.name`"], []⟩
  | .ok c => (buildFrom? library m.chip c).map fun b => ⟨some b.chip, b.diagnostics, b.events⟩

/-! ### The cases -/

/-- What can be wrong with a declared instance whose component and nets are there. -/
inductive InstanceFault : NetlistError → Prop where
  | arity (component : String) (expectedInputs expectedOutputs gotInputs gotOutputs : Nat) :
      InstanceFault
        (.arityMismatch component expectedInputs expectedOutputs gotInputs gotOutputs)
  | bound (net : String) (kind : NetKind) (slot : Slot) (holder : String) :
      InstanceFault (.alreadyBound net kind slot holder)
  | unknownPort (component port : String) : InstanceFault (.unknownPort component port)
  | unconnectedPort (component port : String) (direction : PortDirection) :
      InstanceFault (.unconnectedPort component port direction)

/-- **What the manifest is blamed for** by a diagnostic. -/
inductive Blames (m : Manifest) : Diagnostic → Prop where
  /-- A source of a component cannot be used. -/
  | source {path reason : String} (listed : path ∈ m.componentPaths) :
      Blames m (sourceDiagnostic path reason)
  /-- The name of the project is no identifier. -/
  | projectName {reason : String} (flaw : ¬ IsIdentifier m.project.name) :
      Blames m ((NetlistError.invalidName m.project.name reason).toDiagnostic.withNote
        "the chip is named by `project.name`")
  /-- The name of a net is no identifier. -/
  | netName {origin : String} {names : List String} {name reason : String}
      (list : (origin, names) ∈ m.chip.netLists) (listed : name ∈ names)
      (flaw : ¬ IsIdentifier name) :
      Blames m ((NetlistError.invalidName name reason).toDiagnostic.withNote (originNote origin))
  /-- A signal of a net has a name that is taken. -/
  | takenName {origin : String} {names : List String} {name existing : String}
      (list : (origin, names) ∈ m.chip.netLists) (listed : name ∈ names)
      (clash : existing ∈ handshake name) :
      Blames m ((NetlistError.duplicateName name existing).toDiagnostic.withNote
        (originNote origin))
  | unknownComponent {index : Nat} {p : InstancePlan}
      (declared : m.chip.instances[index]? = some p) :
      Blames m (unknownComponent (Manifest.instanceOrigin index) p.component)
  | unknownNet {index : Nat} {p : InstancePlan} {net : String}
      (declared : m.chip.instances[index]? = some p) (written : net ∈ boundNames p.binding) :
      Blames m (unknownNet (Manifest.instanceOrigin index) net)
  /-- A declared instance cannot be added. -/
  | «instance» {index : Nat} {p : InstancePlan} {e : NetlistError}
      (declared : m.chip.instances[index]? = some p) (fault : InstanceFault e) :
      Blames m (e.toDiagnostic.withNote (originNote (Manifest.instanceOrigin index)))

end Project

/-! ### Instances -/

namespace Chip

variable {c : Chip} {d : Component}

/-- A net that is found by its name is a net of the chip. -/
theorem Wired.lt_of_findNet? (h : c.Wired) {name : String} {id : NetId}
    (hfound : c.findNet? name = some id) : id.index < c.nets.size := by
  simp only [findNet?, Option.bind_eq_bind, Option.bind_eq_some_iff] at hfound
  obtain ⟨ident, -, n, hn, hid⟩ := hfound
  obtain rfl : n.id = id := Option.some.inj hid
  obtain ⟨k, hk⟩ := Arena.mem_toList_iff.1 (List.mem_of_find?_eq_some hn)
  rw [h.net_id hk]
  exact Arena.lt_size_of_get? hk

/-- **By position**, an instance of a well-named component can fail for its arity or for an end that
is held. -/
theorem Wired.fault_of_instantiate (h : c.Wired) (hname : IsIdentifier d.name)
    {inputs outputs : List NetId} (hin : ∀ id ∈ inputs ++ outputs, id.index < c.nets.size)
    {e : NetlistError} (he : (c.instantiate d inputs outputs).outcome = .error e) :
    Project.InstanceFault e := by
  cases h.refuses_of_error he with
  | arity _ => exact .arity ..
  | name _ hflaw =>
    unfold IsIdentifier at hname
    rw [hname] at hflaw
    cases hflaw
  -- no net can be strange, since all of them are in the chip
  | strange _ _ hsplit _ hunknown =>
    have hlt := hin _ (hsplit ▸ List.mem_append_right _ List.mem_cons_self)
    exact absurd hlt (Nat.not_lt.2 hunknown)
  | taken _ _ _ _ _ => exact .bound ..

/-- **By name**, a port may be unknown or be left without a net besides. No port can be given
twice where the names differ. -/
theorem Wired.fault_of_instantiateByName (h : c.Wired) (hname : IsIdentifier d.name)
    {connections : List (String × NetId)} (honce : (connections.map Prod.fst).Nodup)
    (hin : ∀ x ∈ connections, x.2.index < c.nets.size) {e : NetlistError}
    (he : (c.instantiateByName d connections).outcome = .error e) : Project.InstanceFault e := by
  unfold instantiateByName at he
  cases hplaced : placePorts d connections with
  | error e' =>
    rw [hplaced] at he
    obtain rfl : e' = e := Except.error.inj he
    cases placePorts_eq_error_iff.1 hplaced with
    | unknown _ _ _ => exact .unknownPort ..
    | again hsplit _ hnamed =>
      exact absurd (hsplit ▸ honce) (Component.not_nodup_of_named hnamed)
    | unconnected _ _ _ _ => exact .unconnectedPort ..
  | ok nets =>
    rw [hplaced] at he
    have hconnects := placePorts_eq_ok_iff.1 hplaced
    refine h.fault_of_instantiate hname (fun id hid => ?_) he
    -- what is placed at a port is connected to it
    have hlength : (nets.1 ++ nets.2).length ≤ d.allPorts.length := by
      rw [Component.allPorts, List.length_append, List.length_append]
      exact Nat.add_le_add (hconnects.length_eq .input).le (hconnects.length_eq .output).le
    have hsnd : (connections.map Prod.snd).Perm (nets.1 ++ nets.2) := by
      have hperm := hconnects.perm.map Prod.snd
      rwa [List.map_snd_zip hlength] at hperm
    obtain ⟨x, hx, rfl⟩ := List.mem_map.1 (hsnd.mem_iff.2 hid)
    exact hin x hx

end Chip

namespace Project

section Connecting

variable {c : Chip} {d : Component} {p : InstancePlan}

/-- Nets that are found by their names are nets of the chip. -/
theorem lt_of_mem_netsNamed (h : c.Wired) {names : List String} {id : NetId}
    (hid : id ∈ netsNamed c names) : id.index < c.nets.size := by
  obtain ⟨name, -, hfound⟩ := List.mem_filterMap.1 hid
  exact h.lt_of_findNet? hfound

/-- A declared instance of a well-named component, all of whose nets are known, fails for one of
few reasons. -/
theorem fault_of_connect (h : c.Wired) (hname : IsIdentifier d.name) (honce : p.NamesPortsOnce)
    (hknown : ∀ name ∈ boundNames p.binding, (c.findNet? name).isSome = true) {e : NetlistError}
    (he : (connect c d p.binding).outcome = .error e) : InstanceFault e := by
  unfold InstancePlan.binding at he hknown
  cases hconnect : p.connect with
  | none =>
    rw [hconnect] at he
    refine h.fault_of_instantiate hname (fun id hid => ?_) he
    rcases List.mem_append.1 hid with hid | hid
    · exact lt_of_mem_netsNamed h hid
    · exact lt_of_mem_netsNamed h hid
  | some connections =>
    rw [hconnect] at he hknown
    -- looking the nets up does not change what the ports are called
    have hkeys : ((connections.map fun x => (x.1, numberOf c x.2)).map Prod.fst).Nodup := by
      rw [List.map_map]
      exact honce connections hconnect
    dsimp only [connect] at he
    rw [numbered_connections hknown] at he
    refine h.fault_of_instantiateByName hname hkeys (fun x hx => ?_) he
    obtain ⟨y, hy, rfl⟩ := List.mem_map.1 hx
    obtain ⟨id, hid⟩ := Option.isSome_iff_exists.1 (hknown y.2 (List.mem_map_of_mem hy))
    rw [numberOf, hid, Option.getD_some]
    exact h.lt_of_findNet? hid

/-- Connecting with look-ups that fail is connecting: none of them fails. -/
theorem connect?_eq (hnamed : c.Named) (h : c.Wired) (binding : NetBinding) :
    connect? c d binding = some (connect c d binding) := by
  cases binding with
  | positional inputs outputs => exact hnamed.instantiate?_eq h d _ _
  | named connections => exact hnamed.instantiateByName?_eq h d _

end Connecting

end Project

/-! ### Components -/

/-- Whatever describes a component gives it a name that is an identifier. -/
theorem Component.isIdentifier_of_describe {source : String} {d : Component}
    (h : Component.describe source = .ok d) : IsIdentifier d.name := by
  cases ht : Toml.parse? source with
  | none =>
    rw [Component.describe, ht] at h
    cases h
  | some t => exact ((Component.describe_eq_ok_iff ht).1 h).2.1

/-- A call adds nothing to a library but what its source describes. -/
theorem Library.mem_components_describe {compile : String → Except DescribeError Component}
    {l : Library} {source : String} {d : Component}
    (h : d ∈ (l.describe compile source).library.components) :
    d ∈ l.components ∨ compile source = .ok d := by
  unfold Library.describe at h
  dsimp only at h
  split at h
  · exact Or.inl h
  · split at h
    · exact Or.inl h
    · next c hcompile =>
      unfold Library.addNew at h
      split at h
      · exact Or.inl h
      · obtain ⟨entry, hentry, rfl⟩ := List.mem_map.1 h
        rcases List.mem_cons.1 ((Library.perm_insertEntry _ _).mem_iff.1 hentry) with rfl | hold
        · exact Or.inr hcompile
        · exact Or.inl (List.mem_map_of_mem hold)

namespace Project

/-- The components that have been loaded are well-named, and what is reported is about files that
the manifest lists. -/
structure LoadedLibrary.Blameless (m : Manifest) (l : LoadedLibrary) : Prop where
  names : ∀ d ∈ l.library.components, IsIdentifier d.name
  blames : ∀ d ∈ l.diagnostics, ∃ path reason,
    path ∈ m.componentPaths ∧ d = sourceDiagnostic path reason

/-- What one file adds is described, or reported as the fault of this file. -/
theorem LoadedLibrary.Blameless.add {m : Manifest} {l : LoadedLibrary} (h : l.Blameless m)
    {path : String} (hpath : path ∈ m.componentPaths) (content : Except FileError String) :
    (l.add path content).Blameless m := by
  have hreport : ∀ reason, ∀ d ∈ [sourceDiagnostic path reason], ∃ path' reason',
      path' ∈ m.componentPaths ∧ d = sourceDiagnostic path' reason' :=
    fun reason => List.forall_mem_singleton.2 ⟨path, reason, hpath, rfl⟩
  cases content with
  | error e => exact ⟨h.names, List.forall_mem_append.2 ⟨h.blames, hreport e.message⟩⟩
  | ok source =>
    refine ⟨fun d hd => ?_, List.forall_mem_append.2 ⟨h.blames, ?_⟩⟩
    · rcases Library.mem_components_describe hd with hold | hnew
      · exact h.names d hold
      · exact Component.isIdentifier_of_describe hnew
    · split
      · exact List.forall_mem_nil _
      · next e _ => exact hreport e.message

/-- All files leave the library in order, whatever each of them holds. -/
theorem LoadedLibrary.Blameless.loadFrom {m : Manifest} {l : LoadedLibrary} (h : l.Blameless m)
    (root : Path) {paths : List String} (hpaths : ∀ path ∈ paths, path ∈ m.componentPaths)
    (before : Machine) : ((loadFrom root paths l).run before).1.Blameless m := by
  -- on the files that are still to be loaded
  induction paths generalizing l before with
  | nil => exact h
  | cons path rest ih =>
    obtain ⟨hfirst, hrest⟩ := List.forall_mem_cons.1 hpaths
    rw [Project.loadFrom, Action.run_bind]
    exact ih (h.add hfirst _) hrest _

/-- **Whatever the files hold**, the components of a project are well-named. -/
theorem blameless_loadLibrary (root : Path) (m : Manifest) (before : Machine) :
    ((loadLibrary root m).run before).1.Blameless m := by
  have hempty : LoadedLibrary.empty.Blameless m :=
    ⟨List.forall_mem_nil _, List.forall_mem_nil _⟩
  exact hempty.loadFrom root (fun _ hpath => hpath) before

/-! ### Chips -/

/-- The chip keeps its invariants, and the manifest is to blame for all that has been reported. -/
structure Build.Blameless (m : Manifest) (b : Build) : Prop where
  named : b.chip.Named
  wired : b.chip.Wired
  blames : ∀ d ∈ b.diagnostics, Blames m d

namespace Build.Blameless

variable {m : Manifest} {b : Build}

/-- Reporting what the manifest is to blame for keeps the invariant. -/
theorem report (h : b.Blameless m) {ds : List Diagnostic} (hds : ∀ d ∈ ds, Blames m d) :
    (b.report ds).Blameless m :=
  ⟨h.named, h.wired, List.forall_mem_append.2 ⟨h.blames, hds⟩⟩

/-- A step that is taken over keeps the invariant, if its error can be blamed on the manifest. -/
theorem take {α : Type} (h : b.Blameless m) {origin : String} {s : Chip.Step α}
    (hs : s.AllOrNothing b.chip)
    (herror : ∀ e, s.outcome = .error e →
      Blames m (e.toDiagnostic.withNote (originNote origin))) :
    (b.take origin s).Blameless m := by
  have hreports : ∀ d ∈ stepDiagnostics origin s.outcome, Blames m d := by
    cases houtcome : s.outcome with
    | ok a => exact List.forall_mem_nil _
    | error e => exact List.forall_mem_singleton.2 (herror e houtcome)
  have hblames := List.forall_mem_append.2 ⟨h.blames, hreports⟩
  rcases hs with ⟨e, -, hchip⟩ | ⟨a, -, hgrows⟩
  · have hsame : (b.take origin s).chip = b.chip := hchip
    exact ⟨hsame ▸ h.named, hsame ▸ h.wired, hblames⟩
  · exact ⟨h.named.grows hgrows, h.wired.grows hgrows, hblames⟩

/-- Adding nets from one of the three lists keeps the invariant. -/
theorem addNets (h : b.Blameless m) (kind : NetKind) {origin : String} {listed names : List String}
    (hlist : (origin, listed) ∈ m.chip.netLists) (hnames : ∀ name ∈ names, name ∈ listed) :
    (Build.addNets kind origin names b).Blameless m := by
  -- on the names of the list, of which those in front may have been refused
  induction names generalizing b with
  | nil => exact h
  | cons name names ih =>
    obtain ⟨hfirst, hrest⟩ := List.forall_mem_cons.1 hnames
    refine ih (h.take (b.chip.createNet_allOrNothing name kind) fun e he => ?_) hrest
    rcases Chip.createNet_of_error he with ⟨hflaw, reason, rfl⟩ | ⟨s, hs, -, rfl⟩
    · exact .netName hlist hfirst hflaw
    · exact .takenName hlist hfirst hs

variable {library : Library} (hlibrary : ∀ d ∈ library.components, IsIdentifier d.name)

include hlibrary

/-- **A declared instance** keeps the invariant, and no look-up on the way goes wrong. -/
theorem addInstance (h : b.Blameless m) {index : Nat} {p : InstancePlan}
    (hp : m.chip.instances[index]? = some p) (honce : p.NamesPortsOnce) :
    b.addInstance? library index p = some (b.addInstance library index p) ∧
      (b.addInstance library index p).Blameless m := by
  unfold Build.addInstance? Build.addInstance
  cases hcomponent : library.get? p.component with
  | none =>
    exact ⟨rfl, h.report (List.forall_mem_singleton.2 (.unknownComponent hp))⟩
  | some d =>
    have hname : IsIdentifier d.name := hlibrary d (List.mem_of_find?_eq_some hcomponent)
    have hunknown : ∀ d ∈ unknownNets b.chip (Manifest.instanceOrigin index)
        (boundNames p.binding), Blames m d :=
      List.forall_mem_map.2 fun net hnet => .unknownNet hp (List.mem_filter.1 hnet).1
    dsimp only
    cases hcase : unknownNets b.chip (Manifest.instanceOrigin index) (boundNames p.binding) with
    | nil =>
      -- all nets are known, so the instance is tried
      have hknown := List.all_eq_true.1 (Build.unknownNets_eq_nil_iff.1 hcase)
      refine ⟨?_, h.take (Build.connect_allOrNothing b.chip d p.binding) fun e he => ?_⟩
      · rw [connect?_eq h.named h.wired]
        rfl
      · exact .instance hp (fault_of_connect h.wired hname honce hknown he)
    | cons first others =>
      rw [hcase] at hunknown
      exact ⟨rfl, h.report hunknown⟩

/-- **All declared instances**, whatever has become of those in front. -/
theorem addInstances (h : b.Blameless m) {index : Nat} {ps : List InstancePlan}
    (hps : ∀ j p, ps[j]? = some p → m.chip.instances[index + j]? = some p)
    (honce : ∀ p ∈ ps, p.NamesPortsOnce) :
    Build.addInstances? library index ps b = some (Build.addInstances library index ps b) ∧
      (Build.addInstances library index ps b).Blameless m := by
  -- on the declarations; the index says which entry of the manifest comes next
  induction ps generalizing b index with
  | nil => exact ⟨rfl, h⟩
  | cons p ps ih =>
    obtain ⟨hfirst, hrest⟩ := List.forall_mem_cons.1 honce
    have hp : m.chip.instances[index]? = some p := hps 0 p rfl
    obtain ⟨hlookups, hblameless⟩ := h.addInstance hlibrary hp hfirst
    have hshift : ∀ j q, ps[j]? = some q → m.chip.instances[index + 1 + j]? = some q := by
      intro j q hq
      rw [Nat.add_assoc, Nat.add_comm 1 j]
      exact hps (j + 1) q hq
    rw [Build.addInstances?, hlookups, Option.bind_some]
    exact ih hblameless hshift hrest

end Build.Blameless

/-- **The whole build**: inputs, outputs, wires, and then instances. -/
theorem blameless_buildFrom {m : Manifest} {library : Library}
    (hlibrary : ∀ d ∈ library.components, IsIdentifier d.name)
    (honce : ∀ p ∈ m.chip.instances, p.NamesPortsOnce) {name : String} (hname : IsIdentifier name) :
    buildFrom? library m.chip ⟨name, .empty, .empty, .empty⟩ =
        some (buildFrom library m.chip ⟨name, .empty, .empty, .empty⟩) ∧
      (buildFrom library m.chip ⟨name, .empty, .empty, .empty⟩).Blameless m := by
  have hstart : Build.Blameless m ⟨⟨name, .empty, .empty, .empty⟩, [], []⟩ :=
    ⟨.empty hname, .empty name, List.forall_mem_nil _⟩
  have hlists : ("chip.inputs", m.chip.inputs) ∈ m.chip.netLists ∧
      ("chip.outputs", m.chip.outputs) ∈ m.chip.netLists ∧
      ("chip.wires", m.chip.wires) ∈ m.chip.netLists := by
    simp [ChipPlan.netLists]
  obtain ⟨hinputs, houtputs, hwires⟩ := hlists
  have hnets := ((hstart.addNets .boundaryInput hinputs fun _ h => h).addNets
    .boundaryOutput houtputs fun _ h => h).addNets .internal hwires fun _ h => h
  refine hnets.addInstances hlibrary (fun j p hp => ?_) honce
  rwa [Nat.zero_add]

/-- A build reports nothing that the manifest is not to blame for, and all its look-ups find
something. -/
theorem blameless_buildChip {m : Manifest} {library : Library}
    (hlibrary : ∀ d ∈ library.components, IsIdentifier d.name)
    (honce : ∀ p ∈ m.chip.instances, p.NamesPortsOnce) :
    buildChip? m library = some (buildChip m library) ∧
      ∀ d ∈ (buildChip m library).diagnostics, Blames m d := by
  unfold buildChip? buildChip
  cases hnew : Chip.new m.project.name with
  | error e =>
    refine ⟨rfl, List.forall_mem_singleton.2 ?_⟩
    -- the name is all that can be wrong with an empty chip
    have hcheck : checkIdentifier m.project.name = .error e := by
      unfold Chip.new at hnew
      cases hname : checkIdentifier m.project.name with
      | error e' =>
        rw [hname] at hnew
        exact congrArg Except.error (Except.error.inj hnew)
      | ok u =>
        rw [hname] at hnew
        cases hnew
    obtain ⟨flaw, hflaw, rfl⟩ := Chip.checkIdentifier_eq_error_iff.1 hcheck
    refine .projectName fun hvalid => ?_
    unfold IsIdentifier at hvalid
    rw [hvalid] at hflaw
    cases hflaw
  | ok c =>
    obtain ⟨hname, rfl⟩ := Chip.new_eq_ok hnew
    obtain ⟨hlookups, hblameless⟩ := blameless_buildFrom hlibrary honce hname
    dsimp only
    rw [hlookups]
    exact ⟨rfl, hblameless.blames⟩

/-! ### What is never reported -/

/-- A text is known to end as its last part does. -/
theorem getLast?_append_of_eq_some (front back : String) {c : Char}
    (h : back.toList.getLast? = some c) : (front ++ back).toList.getLast? = some c := by
  rw [String.toList_append, List.getLast?_append, h, Option.some_or]

/-- A port that has no net is not reported in the words for a port that has two. -/
theorem message_unconnectedPort_ne (component port component' port' : String)
    (direction direction' : PortDirection) :
    (NetlistError.unconnectedPort component port direction).message ≠
      (NetlistError.duplicatePort component' port' direction').message := by
  intro hsame
  have hlast := congrArg (fun s : String => s.toList.getLast?) hsame
  have hnone : (NetlistError.unconnectedPort component port direction).message.toList.getLast? =
      some 'd' :=
    getLast?_append_of_eq_some _ "` is not connected" rfl
  have htwo : (NetlistError.duplicatePort component' port' direction').message.toList.getLast? =
      some 'e' :=
    getLast?_append_of_eq_some _ "` is connected more than once" rfl
  cases hnone.symm.trans (hlast.trans htwo)

/-- Where notes about declared instances differ from all others. -/
theorem getElem?_originNote_instanceOrigin (index : Nat) :
    (originNote (Manifest.instanceOrigin index)).toList[11]? = some 's' := by
  have htext : originNote (Manifest.instanceOrigin index) =
      "in `" ++ ("chip.instances[" ++ toString index ++ "]") ++ "`" := rfl
  rw [htext]
  simp only [String.toList_append, List.append_assoc]
  rfl

/-- **The name of the project or of a net is no identifier**, and the diagnostic says so. -/
def BlamesName (m : Manifest) (d : Diagnostic) : Prop :=
  (¬ IsIdentifier m.project.name ∧ d.subject = some m.project.name ∧
      d.notes = ["the chip is named by `project.name`"]) ∨
    ∃ origin names name, (origin, names) ∈ m.chip.netLists ∧ name ∈ names ∧
      ¬ IsIdentifier name ∧ d.subject = some name ∧ d.notes = [originNote origin]

namespace Blames

variable {m : Manifest} {d : Diagnostic}

/-- No internal error is reported. -/
theorem code_ne_internal (h : Blames m d) : d.code ≠ ⟨.error, 0⟩ := by
  intro hcode
  cases h with
  | «instance» _ hfault => cases hfault <;> cases hcode
  | _ => cases hcode

/-- No port is reported to be connected twice. -/
theorem message_ne_duplicatePort (h : Blames m d) (hcode : d.code = ⟨.error, 307⟩)
    (component port : String) (direction : PortDirection) :
    d.message ≠ (NetlistError.duplicatePort component port direction).message := by
  cases h with
  | «instance» _ hfault =>
    -- one other message has this code, and it ends in another letter
    cases hfault with
    | unconnectedPort component' port' direction' =>
      exact message_unconnectedPort_ne component' port' component port direction' direction
    | _ => cases hcode
  | _ => cases hcode

/-- An invalid name is that of the project or of a net. -/
theorem blamesName (h : Blames m d) (hcode : d.code = ⟨.error, 305⟩) : BlamesName m d := by
  cases h with
  | projectName hflaw => exact Or.inl ⟨hflaw, rfl, rfl⟩
  | netName hlist hlisted hflaw => exact Or.inr ⟨_, _, _, hlist, hlisted, hflaw, rfl, rfl⟩
  -- a fault of an instance has another code
  | «instance» _ hfault => cases hfault <;> cases hcode
  | _ => cases hcode

end Blames

/-- What is said of a name is not said of a declared instance. -/
theorem BlamesName.not_mem_notes {m : Manifest} {d : Diagnostic} (h : BlamesName m d)
    (index : Nat) : originNote (Manifest.instanceOrigin index) ∉ d.notes := by
  have hplace := getElem?_originNote_instanceOrigin index
  intro hmem
  rcases h with ⟨-, -, hnotes⟩ | ⟨origin, names, name, hlist, -, -, -, hnotes⟩
  · rw [hnotes, List.mem_singleton] at hmem
    rw [hmem] at hplace
    revert hplace
    decide
  · rw [hnotes, List.mem_singleton] at hmem
    rw [hmem] at hplace
    simp only [ChipPlan.netLists, List.mem_cons, Prod.mk.injEq, List.not_mem_nil, or_false] at hlist
    rcases hlist with ⟨rfl, -⟩ | ⟨rfl, -⟩ | ⟨rfl, -⟩ <;> revert hplace <;> decide

/-! ### The law -/

/-- **A manifest that loads is all that can be blamed.** Whatever the files of its components hold,
its chip is built without a look-up by a number that is out of range, and of all that is reported
while the components are loaded and the chip is built, nothing is an internal error, a port that is
connected more than once, or a declared instance with an invalid name: an invalid name is the name
of the project or of a net in one of the three lists. -/
theorem build_blames_manifest {text : String} {m : Manifest} (h : Manifest.ofText text = .ok m)
    (root : Path) (before : Machine) {loaded : LoadedLibrary}
    (hloaded : ((loadLibrary root m).run before).1 = loaded) :
    buildChip? m loaded.library = some (buildChip m loaded.library) ∧
      ∀ d ∈ loaded.diagnostics ++ (buildChip m loaded.library).diagnostics,
        Blames m d ∧ d.code ≠ ⟨.error, 0⟩ ∧
        (d.code = ⟨.error, 307⟩ → ∀ component port direction,
          d.message ≠ (NetlistError.duplicatePort component port direction).message) ∧
        (d.code = ⟨.error, 305⟩ → BlamesName m d ∧
          ∀ index, originNote (Manifest.instanceOrigin index) ∉ d.notes) := by
  have hlibrary := blameless_loadLibrary root m before
  rw [hloaded] at hlibrary
  obtain ⟨hlookups, hbuild⟩ :=
    blameless_buildChip hlibrary.names (Manifest.namesPortsOnce_of_ofText h)
  refine ⟨hlookups, fun d hd => ?_⟩
  have hblames : Blames m d := by
    rcases List.mem_append.1 hd with hd | hd
    · obtain ⟨path, reason, hpath, rfl⟩ := hlibrary.blames d hd
      exact .source hpath
    · exact hbuild d hd
  refine ⟨hblames, hblames.code_ne_internal, hblames.message_ne_duplicatePort, fun hcode => ?_⟩
  have hname := hblames.blamesName hcode
  exact ⟨hname, hname.not_mem_notes⟩

/-- A manifest with a name of a net that is no identifier, and a connection that is missing. -/
def untidyText : String :=
  "[project]\nname = \"p\"\n[components]\npaths = [\"c\"]\n[chip]\ninputs = [\"a\", \"1\"]\n" ++
    "[[chip.instances]]\ncomponent = \"N\"\nconnect.x = \"a\"\n"

/-- What is read of it. -/
def untidyManifest : Manifest where
  project := ⟨"p", "", ""⟩
  output := Manifest.defaultOutput
  componentPaths := ["c"]
  chip := ⟨["a", "1"], [], [], [⟨"N", none, none, some [("x", "a")]⟩]⟩

/-- A machine with the one component that it asks for. -/
def untidyMachine : Machine :=
  .fresh (FileTree.empty.putFile ["c"] "name = \"N\"\ninputs = [\"x\", \"y\"]\n".toUTF8) ⟨"/"⟩

/-- Of the untidy manifest two things are reported, and both are its own fault. -/
theorem build_blames_manifest_untidy :
    Manifest.ofText untidyText = .ok untidyManifest ∧
      ∃ library, ((loadLibrary ⟨"/"⟩ untidyManifest).run untidyMachine).1.library = library ∧
        buildChip? untidyManifest library = some (buildChip untidyManifest library) ∧
        (buildChip untidyManifest library).diagnostics.map (·.code.number) = [305, 307] ∧
        ∀ d ∈ (buildChip untidyManifest library).diagnostics, Blames untidyManifest d := by
  have htext : Manifest.ofText untidyText = .ok untidyManifest := by decide +kernel
  obtain ⟨hlookups, hall⟩ := build_blames_manifest htext ⟨"/"⟩ untidyMachine rfl
  refine ⟨htext, _, rfl, hlookups, by decide +kernel, fun d hd => ?_⟩
  exact (hall d (List.mem_append_right _ hd)).1

end Project

end Netlist
