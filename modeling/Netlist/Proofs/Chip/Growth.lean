import Netlist.Proofs.Chip.Binding
import Netlist.Proofs.Names.Fresh

/-!
# What a call can do to a chip

A chip is made empty and then changed by calls alone. `Call` lists the calls with their arguments,
`Chip.perform` runs one, and `Reachable` holds of the chips that calls can lead to.

Everything that later files need to know about a call is in one inversion, `perform_allOrNothing`:
either the call is refused and the chip is the one from before, or the chip has grown (`Grows`).
There are two ways to grow, one net or one instance more, and `Grows` says for each what the code
has made sure of on the way. Invariants of reachable chips are proved by cases on `Grows`, without
a look at the bodies of the calls (`Reachable.invariant`).

**Names.** A net and an instance take names that are free, as long as the suffixes of automatic
names have not run out. That is why freshness in `Grows` is conditional: it needs the table to hold
fewer than `idLimit` names.

**Refusals.** `chip_perform_of_refused` is the law of the library that a refused call leaves the
chip as it was, wherever in the bind loop an instantiation is stopped.
-/

namespace Netlist

/-- A call that may make a chip grow, with its arguments. -/
inductive Call where
  /-- Add an internal net under an automatic name. -/
  | createWire
  | createInternal (name : String)
  | createBoundaryInput (name : String)
  | createBoundaryOutput (name : String)
  | instantiate (component : Component) (inputs outputs : List NetId)
  | instantiateByName (component : Component) (connections : List (String × NetId))

/-- The number that a call hands out. -/
inductive Issued where
  | net (id : NetId)
  | instance (id : InstanceId)
deriving DecidableEq, Repr

namespace Chip

/-- The same step, its answer read in another way. -/
def Step.map {α β : Type} (f : α → β) (s : Step α) : Step β where
  chip := s.chip
  outcome := s.outcome.map f
  events := s.events

/-- Runs a call. -/
def perform (c : Chip) : Call → Step Issued
  | .createWire => c.createWire.map .net
  | .createInternal name => (c.createInternal name).map .net
  | .createBoundaryInput name => (c.createBoundaryInput name).map .net
  | .createBoundaryOutput name => (c.createBoundaryOutput name).map .net
  | .instantiate d inputs outputs => (c.instantiate d inputs outputs).map .instance
  | .instantiateByName d connections => (c.instantiateByName d connections).map .instance

/-- **The chips there can be**: an empty chip, and whatever a call makes of one of them, refused
calls included. -/
inductive Reachable : Chip → Prop where
  | new {name : String} {c : Chip} : Chip.new name = .ok c → Reachable c
  | call {c : Chip} : Reachable c → (k : Call) → Reachable (c.perform k).chip

/-- Runs calls, one after the other. -/
def run (c : Chip) (calls : List Call) : Chip :=
  calls.foldl (fun c k => (c.perform k).chip) c

/-- Calls lead from reachable chips to reachable chips, and so do runs of calls. -/
theorem Reachable.run {c : Chip} (h : c.Reachable) (calls : List Call) :
    (c.run calls).Reachable := by
  -- from the first call on, so that the chip varies
  induction calls generalizing c with
  | nil => exact h
  | cons k calls ih => exact ih (h.call k)

/-! ### Two ways to grow -/

/-- The chip with a net more. -/
def withNet (c : Chip) (name : String) (kind : NetKind) : Chip :=
  (c.registerNet name kind).chip

/-- The chip with an instance more, its nets in the given state. -/
def withInstance (c : Chip) (name : String) (d : Component) (inputs outputs : List NetId)
    (nets : Arena Net) : Chip :=
  { c with
    nets
    names := c.names.claim name
    instances := c.instances.push
      { id := ⟨c.instances.next⟩
        name := c.names.claimedId name
        component := d
        inputs
        outputs } }

/-- What a request for an instance has to satisfy before any net is touched. -/
structure Admissible (c : Chip) (d : Component) (inputs outputs : List NetId) : Prop where
  /-- There is one net for each port. -/
  arity : (inputs.length, outputs.length) = d.arity
  /-- The component can be named in a module. -/
  name : IsIdentifier d.name
  nets : ∀ id ∈ inputs ++ outputs, id.index < c.nets.size

/-- **One chip grows into another** by one net or by one instance. -/
inductive Grows (c : Chip) : Chip → Prop where
  | addsNet (name : String) (kind : NetKind) (valid : IsIdentifier name)
      (free : c.names.size < idLimit → ∀ s ∈ handshake name, s ∉ c.names.toList) :
      Grows c (c.withNet name kind)
  | addsInstance (name : String) (d : Component) (inputs outputs : List NetId) (nets : Arena Net)
      (valid : IsIdentifier name) (free : c.names.size < idLimit → name ∉ c.names.toList)
      (admissible : c.Admissible d inputs outputs)
      (passes : Passes ⟨c.instances.next⟩ (endsOf inputs outputs) c.nets nets)
      (nodup : (endsOf inputs outputs).Nodup)
      (wasOpen : ∀ e ∈ endsOf inputs outputs, IsOpen c.nets e) :
      Grows c (c.withInstance name d inputs outputs nets)

/-- **All or nothing.** The step is refused and the chip is the one from before, or it succeeds and
the chip has grown. -/
def Step.AllOrNothing {α : Type} (c : Chip) (s : Step α) : Prop :=
  (∃ e, s.outcome = .error e ∧ s.chip = c) ∨ ∃ a, s.outcome = .ok a ∧ Grows c s.chip

/-- It does not matter how the answer of a step is read. -/
theorem Step.AllOrNothing.map {α β : Type} {c : Chip} {s : Step α} (h : s.AllOrNothing c)
    (f : α → β) : (s.map f).AllOrNothing c := by
  rcases h with ⟨e, houtcome, hchip⟩ | ⟨a, houtcome, hgrows⟩
  · exact Or.inl ⟨e, congrArg (Except.map f) houtcome, hchip⟩
  · exact Or.inr ⟨f a, congrArg (Except.map f) houtcome, hgrows⟩

/-- A step that is refused has changed nothing. -/
theorem Step.AllOrNothing.chip_eq {α : Type} {c : Chip} {s : Step α} (h : s.AllOrNothing c)
    {e : NetlistError} (hs : s.outcome = .error e) : s.chip = c := by
  rcases h with ⟨-, -, hchip⟩ | ⟨a, houtcome, -⟩
  · exact hchip
  · rw [houtcome] at hs
    cases hs

/-- A step that is refused at once has changed nothing. -/
theorem allOrNothing_refuse {α : Type} (c : Chip) (e : NetlistError) :
    (c.refuse e : Step α).AllOrNothing c :=
  Or.inl ⟨e, rfl, rfl⟩

/-! ### Nets -/

/-- Creating a net checks everything before it adds anything. -/
theorem createNet_allOrNothing (c : Chip) (name : String) (kind : NetKind) :
    (c.createNet name kind).AllOrNothing c := by
  unfold createNet
  cases hname : checkIdentifier name with
  | error e => exact c.allOrNothing_refuse e
  | ok _ =>
    -- the signals are looked at only when the name itself has passed
    cases hclash : c.clash? name with
    | some existing => exact c.allOrNothing_refuse _
    | none =>
      have hgrows : Grows c (c.withNet name kind) :=
        .addsNet name kind (checkIdentifier_eq_ok_iff.1 hname) fun _ => clash?_eq_none_iff.1 hclash
      exact Or.inr ⟨_, rfl, hgrows⟩

/-- Automatic names are identifiers, with a suffix or without. -/
theorem isIdentifier_nextWireName (c : Chip) : IsIdentifier c.nextWireName :=
  isIdentifier_freshName (isIdentifier_wireBase c.nets.next)

/-- The base of an automatic name ends in the number of the net, so no form of it ends like a strobe
or an acknowledge. -/
theorem endsInDigit_wireBase (n : Nat) : EndsInDigit (wireBase n) := by
  rw [show wireBase n = "wire_" ++ toString n from rfl]
  exact endsInDigit_append_toString _ n

/-- The search for the name of an automatic wire ends at a name whose three signals are free. -/
theorem nextWireName_free {c : Chip} (hfew : c.names.size < idLimit) :
    ∀ s ∈ handshake c.nextWireName, s ∉ c.names.toList := by
  -- the search comes to its end because fewer names are taken than suffixes can be tried
  obtain ⟨k, -, heq, hfree, -⟩ := freshName_not_clashing (endsInDigit_wireBase c.nets.next) hfew
  rw [show c.nextWireName = form (wireBase c.nets.next) k from heq]
  exact hfree

/-- An automatic wire grows a chip: the call checks nothing, and relies on the search. -/
theorem grows_createWire (c : Chip) : Grows c (c.withNet c.nextWireName .internal) :=
  .addsNet _ _ c.isIdentifier_nextWireName nextWireName_free

/-! ### Instances -/

/-- A request passes the checks in front of the bind loop exactly if it is admissible. -/
theorem requestError?_eq_none_iff {c : Chip} {d : Component} {inputs outputs : List NetId} :
    c.requestError? d inputs outputs = none ↔ c.Admissible d inputs outputs := by
  unfold requestError?
  -- the three checks, in the order in which the code makes them
  by_cases harity : (inputs.length, outputs.length) = d.arity
  · rw [if_neg (fun h => h harity)]
    cases hname : checkIdentifier d.name with
    | error e =>
      refine ⟨fun h => (nomatch h), fun h => ?_⟩
      rw [checkIdentifier_eq_ok_iff.2 h.name] at hname
      cases hname
    | ok _ =>
      -- the search for a strange net fails if all nets are there
      have hstrange : c.strangeNet? (inputs ++ outputs) = none ↔
          ∀ id ∈ inputs ++ outputs, id.index < c.nets.size := by
        unfold strangeNet?
        rw [List.find?_eq_none]
        simp only [Bool.not_eq_true, Bool.not_eq_false', Arena.contains_iff]
      refine ⟨fun h => ⟨harity, checkIdentifier_eq_ok_iff.1 hname,
        hstrange.1 (Option.map_eq_none_iff.1 h)⟩, fun h => ?_⟩
      exact Option.map_eq_none_iff.2 (hstrange.2 h.nets)
  · rw [if_pos harity]
    exact ⟨fun h => (nomatch h), fun h => absurd h.arity harity⟩

/-- An instance loads its inputs and drives its outputs. -/
theorem mem_endsOf {inputs outputs : List NetId} {e : NetEnd} :
    e ∈ endsOf inputs outputs ↔
      (e.slot = .load ∧ e.net ∈ inputs) ∨ (e.slot = .driver ∧ e.net ∈ outputs) := by
  obtain ⟨id, s⟩ := e
  cases s <;> simp [endsOf]

/-- Every end that an instance occupies belongs to one of the nets that were given. -/
theorem net_mem_of_mem_endsOf {inputs outputs : List NetId} {e : NetEnd}
    (he : e ∈ endsOf inputs outputs) : e.net ∈ inputs ++ outputs := by
  rcases mem_endsOf.1 he with ⟨-, he⟩ | ⟨-, he⟩
  · exact List.mem_append_left _ he
  · exact List.mem_append_right _ he

/-- The bind loop of an admissible request meets no net that is not there. -/
theorem Admissible.endsOf_exist {c : Chip} {d : Component} {inputs outputs : List NetId}
    (h : c.Admissible d inputs outputs) :
    ∀ e ∈ endsOf inputs outputs, e.net.index < c.nets.size :=
  fun _ he => h.nets _ (net_mem_of_mem_endsOf he)

/-- How far the bind loop gets for a request. -/
def bindingFor (c : Chip) (inputs outputs : List NetId) : Binding :=
  bindAll ⟨c.instances.next⟩ (endsOf inputs outputs) c.nets

/-- A request that fails a check is refused before the loop starts. -/
theorem instantiate_of_requestError {c : Chip} {d : Component} {inputs outputs : List NetId}
    {e : NetlistError} (h : c.requestError? d inputs outputs = some e) :
    c.instantiate d inputs outputs = c.refuse e := by
  unfold instantiate
  rw [h]

/-- A refusal in the bind loop: the error is about the end that refused, and the rollback has
restored the chip. -/
theorem instantiate_of_refused {c : Chip} {d : Component} {inputs outputs : List NetId} {e : NetEnd}
    {conflict : SlotConflict} (h : c.Admissible d inputs outputs)
    (hrefused : (c.bindingFor inputs outputs).refused = some (e, conflict)) :
    (c.instantiate d inputs outputs).outcome =
        .error (c.conflictError ⟨c.instances.next⟩ e conflict) ∧
      (c.instantiate d inputs outputs).chip = c := by
  unfold bindingFor at hrefused
  unfold instantiate
  -- the rollback undoes the loop exactly, so the nets are those of `c` again
  simp only [requestError?_eq_none_iff.2 h, hrefused, unbindAll_bindAll]
  exact ⟨trivial, trivial⟩

/-- The name of an instance is an identifier if that of its component is one. -/
theorem isIdentifier_nextInstanceName (c : Chip) {d : Component} (h : IsIdentifier d.name) :
    IsIdentifier (c.nextInstanceName d) :=
  isIdentifier_freshName (isIdentifier_instanceBase c.instances.next h)

/-- The search for the name of an instance ends at a free one. -/
theorem nextInstanceName_free {c : Chip} (d : Component) (hfew : c.names.size < idLimit) :
    c.nextInstanceName d ∉ c.names.toList := by
  obtain ⟨k, -, heq, hfree, -⟩ := freshName_not_taken (instanceBase c.instances.next d.name) hfew
  rw [show c.nextInstanceName d = form (instanceBase c.instances.next d.name) k from heq]
  exact hfree

/-- When the bind loop has run through, the instance is added, and nothing can stop it any more. -/
theorem instantiate_of_bound {c : Chip} {d : Component} {inputs outputs : List NetId}
    (h : c.Admissible d inputs outputs) (hbound : (c.bindingFor inputs outputs).refused = none) :
    (c.instantiate d inputs outputs).outcome = .ok ⟨c.instances.next⟩ ∧
      (c.instantiate d inputs outputs).chip = c.withInstance (c.nextInstanceName d) d inputs outputs
        (c.bindingFor inputs outputs).nets := by
  unfold bindingFor at hbound
  unfold instantiate
  simp only [requestError?_eq_none_iff.2 h, hbound]
  exact ⟨trivial, rfl⟩

/-- An instance for which the bind loop has run through grows a chip. -/
theorem grows_instantiate {c : Chip} {d : Component} {inputs outputs : List NetId}
    (h : c.Admissible d inputs outputs) (hbound : (c.bindingFor inputs outputs).refused = none) :
    Grows c (c.withInstance (c.nextInstanceName d) d inputs outputs
      (c.bindingFor inputs outputs).nets) := by
  -- the loop has not been stopped, so what it says about the bound ends is about all of them
  have hstop := stopped_bindAll ⟨c.instances.next⟩ (endsOf inputs outputs) c.nets h.endsOf_exist
  have hall := hstop.finished hbound
  refine .addsInstance _ d inputs outputs _ (c.isIdentifier_nextInstanceName h.name)
    (nextInstanceName_free d) h ?_ ?_ ?_
  · have hpasses := hstop.passes
    rwa [hall] at hpasses
  · exact hall ▸ hstop.nodup
  · exact fun e he => hstop.wasOpen e (hall.symm ▸ he)

/-- Adding an instance is all or nothing, although its nets are bound one by one. -/
theorem instantiate_allOrNothing (c : Chip) (d : Component) (inputs outputs : List NetId) :
    (c.instantiate d inputs outputs).AllOrNothing c := by
  cases hrequest : c.requestError? d inputs outputs with
  | some e =>
    rw [instantiate_of_requestError hrequest]
    exact c.allOrNothing_refuse e
  | none =>
    have h := requestError?_eq_none_iff.1 hrequest
    -- a request that passes the checks can still be stopped in the loop
    cases hrefused : (c.bindingFor inputs outputs).refused with
    | some refusal =>
      obtain ⟨houtcome, hchip⟩ := instantiate_of_refused h hrefused
      exact Or.inl ⟨_, houtcome, hchip⟩
    | none =>
      obtain ⟨houtcome, hchip⟩ := instantiate_of_bound h hrefused
      exact Or.inr ⟨_, houtcome, hchip ▸ grows_instantiate h hrefused⟩

/-- So it is when the nets are given by the names of the ports. -/
theorem instantiateByName_allOrNothing (c : Chip) (d : Component)
    (connections : List (String × NetId)) :
    (c.instantiateByName d connections).AllOrNothing c := by
  unfold instantiateByName
  -- the chip is not looked at before every port has its net
  cases placePorts d connections with
  | error e => exact c.allOrNothing_refuse e
  | ok nets => exact c.instantiate_allOrNothing d nets.1 nets.2

/-! ### All calls -/

/-- **What a call can do**: it is refused and changes nothing, or it succeeds and the chip grows. -/
theorem perform_allOrNothing (c : Chip) (k : Call) : (c.perform k).AllOrNothing c := by
  cases k with
  | createWire =>
    -- the one call that cannot be refused
    exact Or.inr ⟨_, rfl, c.grows_createWire⟩
  | createInternal name => exact (c.createNet_allOrNothing name .internal).map _
  | createBoundaryInput name => exact (c.createNet_allOrNothing name .boundaryInput).map _
  | createBoundaryOutput name => exact (c.createNet_allOrNothing name .boundaryOutput).map _
  | instantiate d inputs outputs => exact (c.instantiate_allOrNothing d inputs outputs).map _
  | instantiateByName d connections =>
    exact (c.instantiateByName_allOrNothing d connections).map _

/-- A new chip is empty, and its name is an identifier. -/
theorem new_eq_ok {name : String} {c : Chip} (h : Chip.new name = .ok c) :
    IsIdentifier name ∧ c = ⟨name, .empty, .empty, .empty⟩ := by
  unfold Chip.new at h
  cases hname : checkIdentifier name with
  | error e =>
    rw [hname] at h
    cases h
  | ok _ =>
    rw [hname] at h
    cases h
    exact ⟨checkIdentifier_eq_ok_iff.1 hname, rfl⟩

/-- **Invariants of reachable chips**: what holds of empty chips and survives growth holds of every
reachable chip. -/
theorem Reachable.invariant {P : Chip → Prop}
    (hempty : ∀ name, IsIdentifier name → P ⟨name, .empty, .empty, .empty⟩)
    (hgrows : ∀ {c c'}, c.Reachable → P c → Grows c c' → P c') {c : Chip} (h : c.Reachable) :
    P c := by
  induction h with
  | new hnew =>
    obtain ⟨hname, rfl⟩ := new_eq_ok hnew
    exact hempty _ hname
  | @call c hc k ih =>
    -- a refused call has left the chip, and with it the invariant, alone
    rcases c.perform_allOrNothing k with ⟨_, -, hchip⟩ | ⟨_, -, hg⟩
    · rwa [hchip]
    · exact hgrows hc ih hg

/-! ### Refused calls -/

/-- **A refused call changes nothing**: the names in their order, the nets with their ends, the
instances, and with them all that `findNet?` answers, are those of before. In particular this holds
when the bind loop of an instantiation is stopped, at whatever end and after however many binds; the
answer is then about that end. -/
theorem chip_perform_of_refused (c : Chip) :
    (∀ k e, (c.perform k).outcome = .error e → (c.perform k).chip = c) ∧
      ∀ d inputs outputs e conflict, c.Admissible d inputs outputs →
        (c.bindingFor inputs outputs).refused = some (e, conflict) →
        (c.perform (.instantiate d inputs outputs)).outcome =
            .error (c.conflictError ⟨c.instances.next⟩ e conflict) ∧
          (c.perform (.instantiate d inputs outputs)).chip = c := by
  constructor
  · intro k e h
    rcases c.perform_allOrNothing k with ⟨-, -, hchip⟩ | ⟨issued, houtcome, -⟩
    · exact hchip
    · rw [houtcome] at h
      cases h
  · intro d inputs outputs e conflict h hrefused
    obtain ⟨houtcome, hchip⟩ := instantiate_of_refused h hrefused
    exact ⟨congrArg (Except.map Issued.instance) houtcome, hchip⟩

/-- A component with two inputs and two outputs. -/
def mixer : Component := ⟨"Mixer", ["x", "y"], ["p", "q"], ""⟩

/-- A chip with one net of each kind, all their ends inside the chip open. -/
def openChip : Chip where
  name := "mix"
  names := ⟨["a", "a_stb", "a_ack", "z", "z_stb", "z_ack", "wire_2", "wire_2_stb", "wire_2_ack"]⟩
  nets := ⟨[⟨⟨0⟩, ⟨0⟩, .boundaryInput none⟩, ⟨⟨1⟩, ⟨3⟩, .boundaryOutput none⟩,
    ⟨⟨2⟩, ⟨6⟩, .internal none none⟩]⟩
  instances := .empty

/-- Three ends have been bound when the wire is to be driven a second time; a name that is taken is
refused at once. -/
theorem chip_perform_of_refused_mixer :
    (openChip.bindingFor [⟨0⟩, ⟨2⟩] [⟨2⟩, ⟨2⟩]).bound.length = 3 ∧
      (openChip.perform (.instantiate mixer [⟨0⟩, ⟨2⟩] [⟨2⟩, ⟨2⟩])).outcome =
        .error (.alreadyBound "wire_2" .internal .driver "the instance being created") ∧
      (openChip.perform (.instantiate mixer [⟨0⟩, ⟨2⟩] [⟨2⟩, ⟨2⟩])).chip = openChip ∧
      (openChip.perform (.createInternal "z_stb")).chip = openChip := by
  obtain ⟨hany, hbind⟩ := chip_perform_of_refused openChip
  obtain ⟨houtcome, hchip⟩ := hbind mixer [⟨0⟩, ⟨2⟩] [⟨2⟩, ⟨2⟩] ⟨⟨2⟩, .driver⟩
    ⟨.internal, .driver, .instance ⟨0⟩⟩ ⟨rfl, by decide, by decide⟩ rfl
  exact ⟨rfl, houtcome, hchip, hany (.createInternal "z_stb") (.duplicateName "z_stb" "z_stb") rfl⟩

/-! ### A reachable chip -/

/-- Three calls make the open chip. -/
theorem openChip_reachable : openChip.Reachable := by
  have hnew : Chip.new "mix" = .ok ⟨"mix", .empty, .empty, .empty⟩ := rfl
  exact (Reachable.new hnew).run
    [.createBoundaryInput "a", .createBoundaryOutput "z", .createWire]

/-- The chip with a mixer in it that feeds one of its outputs back into one of its inputs. -/
def loopChip : Chip where
  name := "mix"
  names := ⟨openChip.names.toList ++ ["inst_0_Mixer"]⟩
  nets := ⟨[⟨⟨0⟩, ⟨0⟩, .boundaryInput (some ⟨0⟩)⟩, ⟨⟨1⟩, ⟨3⟩, .boundaryOutput (some ⟨0⟩)⟩,
    ⟨⟨2⟩, ⟨6⟩, .internal (some ⟨0⟩) (some ⟨0⟩)⟩]⟩
  instances := ⟨[⟨⟨0⟩, ⟨9⟩, mixer, [⟨0⟩, ⟨2⟩], [⟨2⟩, ⟨1⟩]⟩]⟩

/-- One more call closes the loop. -/
theorem loopChip_reachable : loopChip.Reachable :=
  openChip_reachable.call (.instantiate mixer [⟨0⟩, ⟨2⟩] [⟨2⟩, ⟨1⟩])

end Chip

end Netlist
