import Netlist.Proofs.Chip.Acceptance
import Netlist.Proofs.Chip.Wiring

/-!
# The exact outcome of adding an instance

An instance is added end by end, on nets that change while the code decides. Here the outcome is
said of the chip before the call, without any order where there is none and with the order of the
code where it shows.

* `Connectable` is the condition for success: a conjunction about the two lists of nets and the
  slots of the chip. It is the plain form of `Feasible` (`feasible_iff_connectable`).
* `AddsInstance` is what a success changes, part by part of the chip.
* `Refuses` is the relation between a request and its error. Its four constructors are the checks in
  the order of the code, each under the condition that those before it have been passed. The last
  one is about the first end of the sequence that somebody holds (`HeldBy`), where the ends in front
  of it count as held by the instance that is being added.

The bind loop is inverted by `refused_bindAll_eq_some_iff`: it is stopped at an end exactly when the
ends in front of it are different and open and this one is held by then. The invariant `Wired` comes
in at one place. Should an instance hold the end, then it is a registered one, and so it has a name
to be called by and is not the one that is being added.
-/

namespace Netlist.Chip

/-! ### Where the bind loop is stopped -/

/-- Who holds an end of a net once the instance has been given the ends in `earlier`. -/
def holderAfter (id : InstanceId) (earlier : List NetEnd) (n : Net) (e : NetEnd) :
    Option Endpoint :=
  if e ∈ earlier then some (.instance id) else n.endpoint e.slot

/-- **The loop is stopped** at the first end that is held when its turn comes. -/
theorem refused_bindAll_eq_some_iff (id : InstanceId) {ends : List NetEnd} {nets : Arena Net}
    (hin : ∀ e ∈ ends, e.net.index < nets.size) {e : NetEnd} {conflict : SlotConflict} :
    (bindAll id ends nets).refused = some (e, conflict) ↔ ∃ before after n,
      ends = before ++ e :: after ∧ before.Nodup ∧ (∀ x ∈ before, IsOpen nets x) ∧
      nets.get? e.net.index = some n ∧ holderAfter id before n e = some conflict.holder ∧
      conflict.kind = n.kind ∧ conflict.slot = e.slot := by
  constructor
  · intro h
    have hstop := stopped_bindAll id ends nets hin
    obtain ⟨after, n', hsplit, hn', hholder, hkind, hslot⟩ := hstop.refusal e conflict h
    -- the net as the loop has left it comes from one of before
    obtain ⟨n, hn, -, -, hkind', hends⟩ := hstop.passes.get_back hn'
    refine ⟨_, after, n, hsplit, hstop.nodup, hstop.wasOpen, hn, ?_, hkind.trans hkind', hslot⟩
    rw [holderAfter, ← hholder, hends]
  · rintro ⟨before, after, n, rfl, hnodup, hopen, hn, hholder, hkind, hslot⟩
    -- along the ends that are bound, from the first one on
    induction before generalizing nets n with
    | nil =>
      have hend : n.endpoint e.slot = some conflict.holder := hholder
      -- the three parts of the conflict are what they are said to be
      have hconflict : conflict = ⟨n.kind, e.slot, conflict.holder⟩ := by
        rw [← hkind, ← hslot]
      rw [List.nil_append, bindAll]
      simp only [hn, Net.bind_of_endpoint_eq_some id hend]
      rw [← hconflict]
    | cons x before ih =>
      obtain ⟨hnew, hnodup⟩ := List.nodup_cons.1 hnodup
      obtain ⟨m, hm, hend⟩ := hopen x List.mem_cons_self
      have hfirst := Passes.single id hm hend
      -- the net of `e` as the first bind has left it
      obtain ⟨n', hn', -, -, hkind', hends⟩ := hfirst.get hn
      rw [List.cons_append, bindAll]
      simp only [hm, Net.bind_of_endpoint_eq_none id hend]
      refine ih n' (fun y hy => ?_) hnodup (fun y hy => hfirst.isOpen_iff.2 ⟨?_, ?_⟩) hn' ?_
        (hkind.trans hkind'.symm)
      · rw [Arena.size_modify]
        exact hin y (List.mem_cons_of_mem _ hy)
      · exact hopen y (List.mem_cons_of_mem _ hy)
      · exact fun hyx => hnew (List.mem_singleton.1 hyx ▸ hy)
      · -- `e` has just been bound if it is `x`, and is held as before otherwise
        rw [← hholder]
        unfold holderAfter
        rw [hends]
        by_cases hmem : e ∈ before
        · rw [if_pos hmem, if_pos (List.mem_cons_of_mem _ hmem)]
        · rw [if_neg hmem]
          by_cases hex : e = x
          · subst hex
            rw [if_pos List.mem_cons_self, if_pos List.mem_cons_self]
          · rw [if_neg fun h => hex (List.mem_singleton.1 h),
              if_neg fun h => (List.mem_cons.1 h).elim hex hmem]

/-! ### Success -/

/-- **The instance can be connected**: there is a net of the chip for each port, no net comes twice
on one side, and every load and driver that is asked for is free. -/
structure Connectable (c : Chip) (d : Component) (inputs outputs : List NetId) : Prop where
  inputs_length : inputs.length = d.inputPorts.length
  outputs_length : outputs.length = d.outputPorts.length
  name : IsIdentifier d.name
  exist : ∀ id ∈ inputs ++ outputs, id.index < c.netCount
  inputs_nodup : inputs.Nodup
  outputs_nodup : outputs.Nodup
  loads_free : ∀ id ∈ inputs, ∀ n, c.net? id = some n →
    n.kind ≠ .boundaryOutput ∧ ∀ i, n.load ≠ some (.instance i)
  drivers_free : ∀ id ∈ outputs, ∀ n, c.net? id = some n →
    n.kind ≠ .boundaryInput ∧ ∀ i, n.driver ≠ some (.instance i)

/-- No end is asked for twice exactly if no net comes twice on one side. -/
theorem nodup_endsOf_iff {inputs outputs : List NetId} :
    (endsOf inputs outputs).Nodup ↔ inputs.Nodup ∧ outputs.Nodup := by
  have hinj : ∀ s : Slot, Function.Injective fun id : NetId => (⟨id, s⟩ : NetEnd) :=
    fun s id id' h => congrArg NetEnd.net h
  rw [endsOf, List.nodup_append, List.nodup_map_iff (hinj .load), List.nodup_map_iff (hinj .driver)]
  refine and_congr_right fun _ => and_iff_left ?_
  -- a load is no driver
  intro e he e' he' heq
  obtain ⟨id, -, rfl⟩ := List.mem_map.1 he
  obtain ⟨id', -, rfl⟩ := List.mem_map.1 he'
  cases congrArg NetEnd.slot heq

/-- An end is open when it lies inside and no instance holds it. -/
theorem endpoint_eq_none_iff_free {n : Net} {s : Slot} :
    n.endpoint s = none ↔ n.kind.outerEnd? ≠ some s ∧ ∀ i, n.endpoint s ≠ some (.instance i) := by
  rw [← Net.endpoint_eq_external_iff.ne]
  constructor
  · intro h
    rw [h]
    exact ⟨nofun, nofun⟩
  · rintro ⟨houter, hheld⟩
    -- a holder would be the outside or an instance
    cases hend : n.endpoint s with
    | none => rfl
    | some holder =>
      cases holder with
      | external => exact absurd hend houter
      | «instance» i => exact absurd hend (hheld i)

/-- The outside loads the boundary outputs. -/
theorem outerEnd?_eq_load_iff {kind : NetKind} :
    kind.outerEnd? = some .load ↔ kind = .boundaryOutput := by
  cases kind <;> simp [NetKind.outerEnd?]

/-- The outside drives the boundary inputs. -/
theorem outerEnd?_eq_driver_iff {kind : NetKind} :
    kind.outerEnd? = some .driver ↔ kind = .boundaryInput := by
  cases kind <;> simp [NetKind.outerEnd?]

/-- **A request is feasible when its instance can be connected.** -/
theorem feasible_iff_connectable {c : Chip} {d : Component} {inputs outputs : List NetId} :
    c.Feasible d inputs outputs ↔ c.Connectable d inputs outputs := by
  constructor
  · intro h
    obtain ⟨hin, hout⟩ := Prod.mk.inj h.admissible.arity
    obtain ⟨hinputs, houtputs⟩ := nodup_endsOf_iff.1 h.nodup
    -- what is open is free in both respects, on either side
    have hfree : ∀ id s, (⟨id, s⟩ : NetEnd) ∈ endsOf inputs outputs → ∀ n, c.net? id = some n →
        n.kind.outerEnd? ≠ some s ∧ ∀ i, n.endpoint s ≠ some (.instance i) := by
      intro id s he n hn
      obtain ⟨m, hm, hnone⟩ := h.isOpen _ he
      obtain rfl : m = n := Option.some.inj (hm.symm.trans hn)
      exact endpoint_eq_none_iff_free.1 hnone
    refine ⟨hin, hout, h.admissible.name, h.admissible.nets, hinputs, houtputs, ?_, ?_⟩
    · intro id hid n hn
      obtain ⟨houter, hheld⟩ := hfree id .load (mem_endsOf.2 (Or.inl ⟨rfl, hid⟩)) n hn
      exact ⟨outerEnd?_eq_load_iff.ne.1 houter, hheld⟩
    · intro id hid n hn
      obtain ⟨houter, hheld⟩ := hfree id .driver (mem_endsOf.2 (Or.inr ⟨rfl, hid⟩)) n hn
      exact ⟨outerEnd?_eq_driver_iff.ne.1 houter, hheld⟩
  · intro h
    refine ⟨⟨?_, h.name, h.exist⟩, nodup_endsOf_iff.2 ⟨h.inputs_nodup, h.outputs_nodup⟩, ?_⟩
    · exact Prod.ext h.inputs_length h.outputs_length
    · rintro ⟨id, s⟩ he
      obtain ⟨n, hn⟩ := Arena.exists_get? (h.exist id (net_mem_of_mem_endsOf he))
      refine ⟨n, hn, endpoint_eq_none_iff_free.2 ?_⟩
      -- an end of the request is the load of an input or the driver of an output
      rcases mem_endsOf.1 he with ⟨hs, hid⟩ | ⟨hs, hid⟩
      · obtain rfl : s = .load := hs
        obtain ⟨hkind, hheld⟩ := h.loads_free id hid n hn
        exact ⟨outerEnd?_eq_load_iff.ne.2 hkind, hheld⟩
      · obtain rfl : s = .driver := hs
        obtain ⟨hkind, hheld⟩ := h.drivers_free id hid n hn
        exact ⟨outerEnd?_eq_driver_iff.ne.2 hkind, hheld⟩

/-- **All that a success changes.** The instance comes last and takes the number of instances there
were; its name comes last in the table; and the instance holds the loads of its inputs and the
drivers of its outputs. -/
structure AddsInstance (c : Chip) (d : Component) (inputs outputs : List NetId) (c' : Chip) :
    Prop where
  name : c'.name = c.name
  names : c'.names = c.names.claim (c.nextInstanceName d)
  /-- The name is new, unless the suffixes of automatic names have run out. -/
  fresh : c.names.size < idLimit → c.nextInstanceName d ∉ c.names.toList ∧
    c'.names.toList = c.names.toList ++ [c.nextInstanceName d]
  instances : ∃ ident, c'.names.resolve ident = c.nextInstanceName d ∧
    c'.instances.toList =
      c.instances.toList ++ [⟨⟨c.instanceCount⟩, ident, d, inputs, outputs⟩]
  netCount : c'.netCount = c.netCount
  nets : ∀ {id n}, c.net? id = some n → ∃ n', c'.net? id = some n' ∧ n'.id = n.id ∧
    n'.name = n.name ∧ n'.kind = n.kind ∧
    n'.load = (if id ∈ inputs then some (.instance ⟨c.instanceCount⟩) else n.load) ∧
    n'.driver = (if id ∈ outputs then some (.instance ⟨c.instanceCount⟩) else n.driver)

/-- When its ends have been passed to it, the instance has been added, and nothing else has changed.
-/
theorem addsInstance_of_passes {c : Chip} {d : Component} {inputs outputs : List NetId}
    {nets : Arena Net} (h : Passes ⟨c.instances.next⟩ (endsOf inputs outputs) c.nets nets) :
    c.AddsInstance d inputs outputs
      (c.withInstance (c.nextInstanceName d) d inputs outputs nets) where
  name := rfl
  names := rfl
  fresh hfew := by
    have hfree := nextInstanceName_free d hfew
    exact ⟨hfree, NameTable.toList_claim_of_not_mem hfree⟩
  instances := ⟨_, NameTable.resolve_claimedId .., rfl⟩
  netCount := h.size_eq
  nets {id n} hn := by
    obtain ⟨n', hn', hid, hname, hkind, hends⟩ := h.get hn
    refine ⟨n', hn', hid, hname, hkind, ?_, ?_⟩
    · rw [Net.load, hends]
      exact if_congr (by simp [mem_endsOf]) rfl rfl
    · rw [Net.driver, hends]
      exact if_congr (by simp [mem_endsOf]) rfl rfl

/-! ### Refusal -/

/-- **Somebody holds the end when its turn comes**, the ends in `earlier` having been given to the
instance that is being added; and this is how the holder is called. -/
inductive HeldBy (c : Chip) (earlier : List NetEnd) (e : NetEnd) : String → Prop where
  | outside {n : Net} (net : c.net? e.net = some n) (outer : n.kind.outerEnd? = some e.slot)
      (first : e ∉ earlier) : HeldBy c earlier e "the chip boundary"
  | pending (again : e ∈ earlier) : HeldBy c earlier e "the instance being created"
  | registered {n : Net} {i : InstanceId} {inst : Instance} (net : c.net? e.net = some n)
      (held : n.endpoint e.slot = some (.instance i)) (exists_instance : c.instance? i = some inst)
      (first : e ∉ earlier) :
      HeldBy c earlier e s!"instance `{c.names.resolve inst.name}`"

/-- **How a request is refused.** The constructors are in the order of the checks, and each says
that the checks before it have been passed. -/
inductive Refuses (c : Chip) (d : Component) (inputs outputs : List NetId) :
    NetlistError → Prop where
  | arity (differs : (inputs.length, outputs.length) ≠ d.arity) :
      Refuses c d inputs outputs (.arityMismatch d.name d.inputPorts.length d.outputPorts.length
        inputs.length outputs.length)
  | name {flaw : IdentifierFlaw} (arity : (inputs.length, outputs.length) = d.arity)
      (flawed : Identifier.flaw? d.name = some flaw) :
      Refuses c d inputs outputs (.invalidName d.name flaw.reason)
  /-- The number is the first that is out of range. -/
  | strange {before after : List NetId} {id : NetId}
      (arity : (inputs.length, outputs.length) = d.arity) (valid : IsIdentifier d.name)
      (split : inputs ++ outputs = before ++ id :: after)
      (known : ∀ x ∈ before, x.index < c.netCount) (unknown : c.netCount ≤ id.index) :
      Refuses c d inputs outputs (.internal s!"{id.text} is not part of chip `{c.name}`")
  /-- The end is the first that somebody holds when its turn comes. -/
  | taken {before after : List NetEnd} {e : NetEnd} {n : Net} {holder : String}
      (admissible : c.Admissible d inputs outputs)
      (split : endsOf inputs outputs = before ++ e :: after)
      (free : ∀ earlier x later, before = earlier ++ x :: later →
        ∀ holder, ¬ c.HeldBy earlier x holder)
      (net : c.net? e.net = some n) (held : c.HeldBy before e holder) :
      Refuses c d inputs outputs (.alreadyBound (c.nameOf n) n.kind e.slot holder)

section Refusing

variable {c : Chip} {d : Component} {inputs outputs : List NetId}

/-- The instance that is being added is named only where the request comes back to an end. -/
theorem HeldBy.eq_pending_iff {earlier : List NetEnd} {e : NetEnd} {holder : String}
    (h : c.HeldBy earlier e holder) : holder = "the instance being created" ↔ e ∈ earlier := by
  cases h with
  | outside net outer first => exact iff_of_false (by decide) first
  | pending again => exact iff_of_true rfl again
  | @registered n i inst net held exists_instance first =>
    refine iff_of_false (fun heq => ?_) first
    -- the texts differ in their first letter
    have hletter := congrArg (fun s : String => s.toList.head?) heq
    simp [toString] at hletter

/-- An end that is open and has not been given away is held by nobody. -/
theorem not_heldBy_of_isOpen {earlier : List NetEnd} {e : NetEnd} (hopen : IsOpen c.nets e)
    (hnew : e ∉ earlier) (holder : String) : ¬ c.HeldBy earlier e holder := by
  obtain ⟨m, hm, hnone⟩ := hopen
  -- neither the outside, nor the instance that is being added, nor any other
  rintro (⟨hn, houter, -⟩ | hagain | ⟨hn, hheld, -, -⟩)
  · obtain rfl := Option.some.inj (hm.symm.trans hn)
    rw [Net.endpoint_eq_external_iff.2 houter] at hnone
    cases hnone
  · exact hnew hagain
  · obtain rfl := Option.some.inj (hm.symm.trans hn)
    rw [hheld] at hnone
    cases hnone

/-- Nobody holds an end whose number is in range: it is open, and has not been given away. -/
theorem Wired.isOpen_of_not_heldBy (h : c.Wired) {earlier : List NetEnd} {e : NetEnd}
    (hin : e.net.index < c.nets.size) (hfree : ∀ holder, ¬ c.HeldBy earlier e holder) :
    IsOpen c.nets e ∧ e ∉ earlier := by
  have hnew : e ∉ earlier := fun hagain => hfree _ (.pending hagain)
  obtain ⟨n, hn⟩ := Arena.exists_get? hin
  refine ⟨⟨n, hn, endpoint_eq_none_iff_free.2 ⟨fun houter => ?_, fun i hi => ?_⟩⟩, hnew⟩
  · exact hfree _ (.outside hn houter hnew)
  · obtain ⟨inst, hinst, -⟩ := (h.holder_iff hn e.slot i.index).1 hi
    exact hfree _ (.registered hn hi hinst hnew)

/-- **The ends in front of the first that is held** are different and open. -/
theorem Wired.free_iff (h : c.Wired) {before : List NetEnd}
    (hin : ∀ e ∈ before, e.net.index < c.nets.size) :
    (∀ earlier x later, before = earlier ++ x :: later → ∀ holder, ¬ c.HeldBy earlier x holder) ↔
      before.Nodup ∧ ∀ x ∈ before, IsOpen c.nets x := by
  constructor
  · intro hfree
    constructor
    · -- an end that came again would have been given away by then
      refine List.nodup_iff_getElem?_ne_getElem?.2 fun i j hij hj heq => ?_
      have hsplit : before = before.take j ++ before[j] :: before.drop (j + 1) := by
        rw [List.getElem_cons_drop, List.take_append_drop]
      have hnew := (h.isOpen_of_not_heldBy (hin _ (List.getElem_mem hj))
        (hfree _ _ _ hsplit)).2
      rw [List.getElem?_eq_getElem hj] at heq
      refine hnew (List.mem_of_getElem? (i := i) ?_)
      rw [List.getElem?_take_of_lt hij, heq]
    · intro x hx
      obtain ⟨earlier, later, hsplit⟩ := List.append_of_mem hx
      exact (h.isOpen_of_not_heldBy (hin x hx) (hfree _ _ _ hsplit)).1
  · rintro ⟨hnodup, hopen⟩ earlier x later rfl holder
    have hnew : x ∉ earlier := fun hx =>
      (List.nodup_append.1 hnodup).2.2 x hx x List.mem_cons_self rfl
    exact not_heldBy_of_isOpen (hopen x (List.mem_append_right _ List.mem_cons_self)) hnew holder

/-- A registered instance is called by its name, since it is not the one that is being added. -/
theorem holderText_of_instance {i : InstanceId} {inst : Instance}
    (hinst : c.instance? i = some inst) : c.holderText ⟨c.instances.next⟩ (.instance i) =
      s!"instance `{c.names.resolve inst.name}`" := by
  -- the number that is handed out next is still free
  have hne : i ≠ ⟨c.instances.next⟩ := fun heq =>
    Nat.ne_of_lt (Arena.lt_size_of_get? hinst) (congrArg InstanceId.index heq)
  rw [holderText, if_neg hne, instanceName, hinst]
  rfl

/-- **Who holds an end in the loop** is who is said to hold it. -/
theorem Wired.heldBy_iff (h : c.Wired) {earlier : List NetEnd} {e : NetEnd} {n : Net}
    (hn : c.net? e.net = some n) {holder : String} : c.HeldBy earlier e holder ↔
      ∃ o, holderAfter ⟨c.instances.next⟩ earlier n e = some o ∧
        holder = c.holderText ⟨c.instances.next⟩ o := by
  unfold holderAfter
  by_cases hmem : e ∈ earlier
  · rw [if_pos hmem]
    constructor
    · intro hheld
      refine ⟨_, rfl, ?_⟩
      rw [holderText, if_pos rfl, hheld.eq_pending_iff]
      exact hmem
    · rintro ⟨o, ho, rfl⟩
      cases ho
      rw [holderText, if_pos rfl]
      exact .pending hmem
  · rw [if_neg hmem]
    constructor
    · rintro (⟨hn', houter, -⟩ | hagain | ⟨hn', hheld, hinst, -⟩)
      · obtain rfl := Option.some.inj (hn.symm.trans hn')
        exact ⟨.external, Net.endpoint_eq_external_iff.2 houter, rfl⟩
      · exact absurd hagain hmem
      · obtain rfl := Option.some.inj (hn.symm.trans hn')
        exact ⟨_, hheld, (holderText_of_instance hinst).symm⟩
    · rintro ⟨o, ho, rfl⟩
      cases o with
      | external => exact .outside hn (Net.endpoint_eq_external_iff.1 ho) hmem
      | «instance» i =>
        -- an instance that holds an end of the chip is registered
        obtain ⟨inst, hinst, -⟩ := (h.holder_iff hn e.slot i.index).1 ho
        rw [holderText_of_instance hinst]
        exact .registered hn ho hinst hmem

/-- A name is refused for its flaw. -/
theorem checkIdentifier_eq_error_iff {name : String} {e : NetlistError} :
    checkIdentifier name = .error e ↔
      ∃ flaw, Identifier.flaw? name = some flaw ∧ e = .invalidName name flaw.reason := by
  unfold checkIdentifier
  -- the check reports the flaw as it is
  cases Identifier.flaw? name with
  | none => exact ⟨(nomatch ·), fun ⟨_, h, _⟩ => nomatch h⟩
  | some flaw =>
    constructor
    · intro h
      exact ⟨flaw, rfl, (Except.error.inj h).symm⟩
    · rintro ⟨_, ⟨⟩, rfl⟩
      rfl

/-- The strange number is the first that is out of range. -/
theorem strangeNet?_eq_some_iff {ids : List NetId} {id : NetId} :
    c.strangeNet? ids = some id ↔ ∃ before after, ids = before ++ id :: after ∧
      (∀ x ∈ before, x.index < c.netCount) ∧ c.netCount ≤ id.index := by
  -- the search goes by what the arena contains
  have hknown : ∀ x : NetId, (!!c.nets.contains x.index) = true ↔ x.index < c.netCount := by
    intro x
    rw [Bool.not_not]
    exact Arena.contains_iff
  have hstrange : (!c.nets.contains id.index) = true ↔ c.netCount ≤ id.index := by
    rw [Bool.not_eq_true', Bool.eq_false_iff, Ne, Arena.contains_iff]
    exact Nat.not_lt
  rw [strangeNet?, List.find?_eq_some_iff_append, hstrange]
  simp only [hknown]
  constructor
  · rintro ⟨hid, before, after, hsplit, hbefore⟩
    exact ⟨before, after, hsplit, hbefore, hid⟩
  · rintro ⟨before, after, hsplit, hbefore, hid⟩
    exact ⟨hid, before, after, hsplit, hbefore⟩

/-- What is wrong with a request before any net is touched. -/
theorem refuses_of_requestError {e : NetlistError} (h : c.requestError? d inputs outputs = some e) :
    c.Refuses d inputs outputs e := by
  unfold requestError? at h
  by_cases harity : (inputs.length, outputs.length) = d.arity
  · -- the number of nets is right, so the name is looked at next
    rw [if_neg (fun hne => hne harity)] at h
    cases hname : checkIdentifier d.name with
    | error e' =>
      rw [hname] at h
      obtain rfl : e' = e := Option.some.inj h
      obtain ⟨flaw, hflaw, rfl⟩ := checkIdentifier_eq_error_iff.1 hname
      exact .name harity hflaw
    | ok _ =>
      rw [hname] at h
      obtain ⟨id, hid, rfl⟩ := Option.map_eq_some_iff.1 h
      obtain ⟨before, after, hsplit, hknown, hunknown⟩ := strangeNet?_eq_some_iff.1 hid
      exact .strange harity (checkIdentifier_eq_ok_iff.1 hname) hsplit hknown hunknown
  · rw [if_pos harity] at h
    obtain rfl := Option.some.inj h
    exact .arity harity

/-- **Every refusal is the answer of the call.** -/
theorem Refuses.outcome_eq (h : c.Wired) {e : NetlistError} (he : c.Refuses d inputs outputs e) :
    (c.instantiate d inputs outputs).outcome = .error e := by
  cases he with
  | arity differs =>
    have hrequest : c.requestError? d inputs outputs = some (.arityMismatch d.name
        d.inputPorts.length d.outputPorts.length inputs.length outputs.length) := by
      rw [requestError?, if_pos differs]
    rw [instantiate_of_requestError hrequest]
    rfl
  | @name flaw arity flawed =>
    have hrequest :
        c.requestError? d inputs outputs = some (.invalidName d.name flaw.reason) := by
      rw [requestError?, if_neg (fun hne => hne arity),
        checkIdentifier_eq_error_iff.2 ⟨flaw, flawed, rfl⟩]
    rw [instantiate_of_requestError hrequest]
    rfl
  | @strange before after id arity valid split known unknown =>
    have hstrange : c.strangeNet? (inputs ++ outputs) = some id :=
      strangeNet?_eq_some_iff.2 ⟨before, after, split, known, unknown⟩
    have hrequest : c.requestError? d inputs outputs =
        some (.internal s!"{id.text} is not part of chip `{c.name}`") := by
      rw [requestError?, if_neg (fun hne => hne arity), checkIdentifier_eq_ok_iff.2 valid]
      simp only [hstrange, Option.map_some]
    rw [instantiate_of_requestError hrequest]
    rfl
  | @taken before after e n holder admissible split free net held =>
    -- all checks are passed, and the loop is stopped where the request says
    have hin := admissible.endsOf_exist
    obtain ⟨hnodup, hopen⟩ := (h.free_iff fun x hx =>
      hin x (split ▸ List.mem_append_left _ hx)).1 free
    obtain ⟨o, ho, rfl⟩ := (h.heldBy_iff net).1 held
    have hrefused : (c.bindingFor inputs outputs).refused = some (e, ⟨n.kind, e.slot, o⟩) :=
      (refused_bindAll_eq_some_iff _ hin).2
        ⟨before, after, n, split, hnodup, hopen, net, ho, rfl, rfl⟩
    rw [(instantiate_of_refused admissible hrefused).1, conflictError, netName, net]
    rfl

/-- **Every error is a refusal.** -/
theorem Wired.refuses_of_error (h : c.Wired) {e : NetlistError}
    (he : (c.instantiate d inputs outputs).outcome = .error e) :
    c.Refuses d inputs outputs e := by
  cases hrequest : c.requestError? d inputs outputs with
  | some e' =>
    rw [instantiate_of_requestError hrequest] at he
    obtain rfl : e' = e := Except.error.inj he
    exact refuses_of_requestError hrequest
  | none =>
    have hadm := requestError?_eq_none_iff.1 hrequest
    have hin := hadm.endsOf_exist
    cases hrefused : (c.bindingFor inputs outputs).refused with
    | none =>
      rw [(instantiate_of_bound hadm hrefused).1] at he
      cases he
    | some refusal =>
      obtain ⟨x, conflict⟩ := refusal
      rw [(instantiate_of_refused hadm hrefused).1] at he
      obtain rfl := Except.error.inj he
      -- what is known of the end that refused is what `taken` asks for
      obtain ⟨before, after, n, hsplit, hnodup, hopen, hn, hholder, hkind, hslot⟩ :=
        (refused_bindAll_eq_some_iff _ hin).1 hrefused
      have hnet : c.net? x.net = some n := hn
      rw [conflictError, netName, hnet, hkind, hslot]
      refine .taken hadm hsplit ?_ hnet ((h.heldBy_iff hnet).2 ⟨_, hholder, rfl⟩)
      exact (h.free_iff fun y hy => hin y (hsplit ▸ List.mem_append_left _ hy)).2 ⟨hnodup, hopen⟩

end Refusing

/-! ### The law -/

/-- **The exact outcome of adding an instance** to a reachable chip. The call succeeds exactly when
the instance can be connected; then its number is the number of instances there were, and nothing
changes but what belongs to it. Otherwise the call fails with the first error that applies. If that
is a net whose end is held, then the holder is said to be the instance that is being added exactly
when the same end has come up in the call before. -/
theorem Reachable.instantiate_exact {c : Chip} (h : c.Reachable) (d : Component)
    (inputs outputs : List NetId) :
    ((∃ id, (c.instantiate d inputs outputs).outcome = .ok id) ↔
        c.Connectable d inputs outputs) ∧
      (∀ id, (c.instantiate d inputs outputs).outcome = .ok id → id = ⟨c.instanceCount⟩ ∧
        c.AddsInstance d inputs outputs (c.instantiate d inputs outputs).chip) ∧
      (∀ e, (c.instantiate d inputs outputs).outcome = .error e ↔
        c.Refuses d inputs outputs e) ∧
      ∀ earlier e holder, c.HeldBy earlier e holder →
        (holder = "the instance being created" ↔ e ∈ earlier) := by
  refine ⟨instantiate_ok_iff.trans feasible_iff_connectable, fun id hok => ?_, fun e => ?_, ?_⟩
  · obtain ⟨hfeasible, nets, hpasses, hchip⟩ := instantiate_of_ok hok
    -- the loop has run through, so the number is that of the call
    obtain ⟨hid, -⟩ := instantiate_of_bound hfeasible.admissible
      (refused_bindAll_eq_none ⟨c.instances.next⟩ hfeasible.nodup hfeasible.isOpen)
    refine ⟨Except.ok.inj (hok.symm.trans hid), ?_⟩
    rw [hchip]
    exact addsInstance_of_passes hpasses
  · exact ⟨h.wired.refuses_of_error, fun he => he.outcome_eq h.wired⟩
  · intro earlier e holder hheld
    exact hheld.eq_pending_iff

/-- A mixer is added to the open chip; a second one is refused the very first load, which the first
has got; and with the wire twice among its outputs the first would have stood in its own way. -/
theorem instantiate_exact_mixer : openChip.Reachable ∧ loopChip.Reachable ∧
    openChip.Connectable mixer [⟨0⟩, ⟨2⟩] [⟨2⟩, ⟨1⟩] ∧
    (loopChip.instantiate mixer [⟨0⟩, ⟨2⟩] [⟨2⟩, ⟨1⟩]).outcome =
      .error (.alreadyBound "a" .boundaryInput .load "instance `inst_0_Mixer`") ∧
    openChip.Refuses mixer [⟨0⟩, ⟨2⟩] [⟨2⟩, ⟨2⟩]
      (.alreadyBound "wire_2" .internal .driver "the instance being created") := by
  obtain ⟨hok, -, herror, -⟩ :=
    Reachable.instantiate_exact openChip_reachable mixer [⟨0⟩, ⟨2⟩] [⟨2⟩, ⟨1⟩]
  obtain ⟨-, -, herror', -⟩ :=
    Reachable.instantiate_exact loopChip_reachable mixer [⟨0⟩, ⟨2⟩] [⟨2⟩, ⟨1⟩]
  obtain ⟨-, -, herror'', -⟩ :=
    Reachable.instantiate_exact openChip_reachable mixer [⟨0⟩, ⟨2⟩] [⟨2⟩, ⟨2⟩]
  refine ⟨openChip_reachable, loopChip_reachable, hok.1 ⟨⟨0⟩, rfl⟩, ?_, (herror'' _).1 rfl⟩
  have hwire : loopChip.net? ⟨0⟩ = some ⟨⟨0⟩, ⟨0⟩, .boundaryInput (some ⟨0⟩)⟩ := rfl
  have hadm : loopChip.Admissible mixer [⟨0⟩, ⟨2⟩] [⟨2⟩, ⟨1⟩] := ⟨rfl, by decide, by decide⟩
  have hsplit : endsOf [⟨0⟩, ⟨2⟩] [⟨2⟩, ⟨1⟩] =
      [] ++ ⟨⟨0⟩, .load⟩ :: [⟨⟨2⟩, .load⟩, ⟨⟨2⟩, .driver⟩, ⟨⟨1⟩, .driver⟩] := rfl
  have hmixer : loopChip.instance? ⟨0⟩ = some ⟨⟨0⟩, ⟨9⟩, mixer, [⟨0⟩, ⟨2⟩], [⟨2⟩, ⟨1⟩]⟩ := rfl
  have hheld : loopChip.HeldBy [] ⟨⟨0⟩, .load⟩ "instance `inst_0_Mixer`" :=
    .registered hwire rfl hmixer List.not_mem_nil
  refine (herror' _).2 (.taken hadm hsplit ?_ hwire hheld)
  intro earlier x later hnil
  cases earlier <;> cases hnil

end Netlist.Chip
