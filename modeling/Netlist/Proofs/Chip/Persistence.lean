import Netlist.Proofs.Chip.Namespace

/-!
# A chip only grows

Nets and instances are never removed, and what is held is never taken away. `Keeps` relates a chip
to a later one: every net stands where it stood, under its number, name and kind, and the ends that
were held have the same holders; every instance is the same in all its parts; and the name table
goes on from what it was.

The relation is proved for one way of growing after the other (`Grows.keeps`). The clause about
holders is the one that needs an argument: an instance is added with ends that nobody held
(`Grows.addsInstance`), so none of them was held before. A refused call changes nothing at all, so
a call keeps what there is (`keeps_perform`) and so does a run (`keeps_run`).

Names are kept because their numbers lie in the old part of the table. This is what the invariant
`Named` of reachable chips is for; with it, `Keeps` yields the names of nets and instances and the
answers of `findNet?`. `Reachable.persists` puts everything together. No bound on the size of the
chip is needed: an answer of `findNet?` stands even if a name should ever be claimed twice.

The rollback of an instantiation is the one place where ends are opened again. It opens what the
same call has bound, and that nobody held (`Keeps.endpoint_eq_none_of_mem_bound`).
-/

namespace Netlist.Chip

/-- **What was there is there still.** The second chip has every net and every instance of the
first, unchanged but for ends that nobody held. -/
structure Keeps (c c' : Chip) : Prop where
  name : c'.name = c.name
  names : c.names.toList <+: c'.names.toList
  nets : ∀ {id n}, c.net? id = some n → ∃ n', c'.net? id = some n' ∧ n'.id = n.id ∧
    n'.name = n.name ∧ n'.kind = n.kind ∧ ∀ s o, n.endpoint s = some o → n'.endpoint s = some o
  instances : ∀ {id i}, c.instance? id = some i → c'.instance? id = some i

namespace Keeps

/-- A chip keeps what it has. -/
theorem refl (c : Chip) : c.Keeps c where
  name := rfl
  names := List.prefix_rfl
  nets := fun {_ n} hn => ⟨n, hn, rfl, rfl, rfl, fun _ _ ho => ho⟩
  instances hi := hi

/-- What is kept and kept again is kept. -/
theorem trans {c c' c'' : Chip} (h : c.Keeps c') (h' : c'.Keeps c'') : c.Keeps c'' where
  name := h'.name.trans h.name
  names := h.names.trans h'.names
  nets := by
    intro id n hn
    obtain ⟨n', hn', hid, hname, hkind, hheld⟩ := h.nets hn
    obtain ⟨n'', hn'', hid', hname', hkind', hheld'⟩ := h'.nets hn'
    refine ⟨n'', hn'', hid'.trans hid, hname'.trans hname, hkind'.trans hkind, ?_⟩
    intro s o ho
    exact hheld' s o (hheld s o ho)
  instances hi := h'.instances (h.instances hi)

end Keeps

/-! ### Calls and runs -/

/-- **Growing keeps everything**, whichever of the two ways it is. -/
theorem Grows.keeps {c c' : Chip} (h : Grows c c') : c.Keeps c' where
  name := by
    cases h with
    | addsNet _ _ _ _ => rfl
    | addsInstance _ _ _ _ _ _ _ _ _ _ _ => rfl
  names := h.prefix_names
  nets := by
    intro id n hn
    cases h with
    | addsNet name kind _ _ =>
      -- the new net stands behind the old ones
      have hn' : (c.withNet name kind).net? id = some n := Arena.get?_push_eq_some.2 (Or.inr hn)
      exact ⟨n, hn', rfl, rfl, rfl, fun _ _ ho => ho⟩
    | addsInstance name d inputs outputs nets _ _ _ passes _ wasOpen =>
      obtain ⟨n', hn', hid, hname, hkind, hends⟩ := passes.get hn
      refine ⟨n', hn', hid, hname, hkind, ?_⟩
      intro s o ho
      -- an end that is held was not open, so it is none of those that have been passed
      have hnot : (⟨id, s⟩ : NetEnd) ∉ endsOf inputs outputs := by
        intro hmem
        obtain ⟨m, hm, hnone⟩ := wasOpen _ hmem
        obtain rfl : m = n := Option.some.inj (hm.symm.trans hn)
        rw [ho] at hnone
        cases hnone
      rw [hends s, if_neg hnot]
      exact ho
  instances := by
    intro id i hi
    cases h with
    | addsNet _ _ _ _ => exact hi
    -- the new instance stands behind the old ones
    | addsInstance _ _ _ _ _ _ _ _ _ _ _ => exact Arena.get?_push_eq_some.2 (Or.inr hi)

/-- A call keeps what there is, refused or not. -/
theorem keeps_perform (c : Chip) (k : Call) : c.Keeps (c.perform k).chip := by
  rcases c.perform_allOrNothing k with ⟨_, -, hchip⟩ | ⟨_, -, hgrows⟩
  · -- a refused call gives the same chip back
    rw [hchip]
    exact .refl c
  · exact hgrows.keeps

/-- So does a run. -/
theorem keeps_run (c : Chip) (calls : List Call) : c.Keeps (c.run calls) := by
  -- from the first call on, so the chip has to vary
  induction calls generalizing c with
  | nil => exact .refl c
  | cons k calls ih => exact (c.keeps_perform k).trans (ih (c.perform k).chip)

/-! ### Names -/

namespace Keeps

variable {c c' : Chip}

/-- A net goes by the same name. -/
theorem netName_eq (h : c.Keeps c') (hnamed : c.Named) {id : NetId} {n : Net}
    (hn : c.net? id = some n) : c'.netName id = c.netName id := by
  obtain ⟨n', hn', -, hname, -⟩ := h.nets hn
  have hmem : n ∈ c.nets.toList := Arena.mem_toList_iff.2 ⟨_, hn⟩
  rw [Chip.netName_eq hn', Chip.netName_eq hn, nameOf, hname]
  exact NameTable.resolve_of_prefix h.names (hnamed.net n hmem)

/-- An instance goes by the same name. -/
theorem instanceName_eq (h : c.Keeps c') (hnamed : c.Named) {id : InstanceId} {i : Instance}
    (hi : c.instance? id = some i) : c'.instanceName id = c.instanceName id := by
  have hmem : i ∈ c.instances.toList := Arena.mem_toList_iff.2 ⟨_, hi⟩
  rw [instanceName, instanceName, h.instances hi, hi]
  -- the same number, looked up in a longer table
  exact NameTable.resolve_of_prefix h.names (hnamed.inst i hmem)

/-- The numbers and names of the nets, in order, go on from what they were. -/
theorem prefix_nets (h : c.Keeps c') :
    (c.nets.toList.map fun n => (n.name, n.id)) <+:
      c'.nets.toList.map fun n => (n.name, n.id) := by
  refine List.prefix_iff_getElem?.2 fun k hk => ?_
  rw [List.length_map] at hk
  have hn : c.net? ⟨k⟩ = some c.nets.toList[k] := List.getElem?_eq_getElem hk
  obtain ⟨n', hn', hid, hname, -⟩ := h.nets hn
  have hk' : c'.nets.toList[k]? = some n' := hn'
  rw [List.getElem?_map, hk', List.getElem_map, Option.map_some, hid, hname]

end Keeps

/-- `findNet?`, said of the numbers and names of the nets alone. -/
theorem findNet?_eq (c : Chip) (name : String) :
    c.findNet? name = (c.names.get? name).bind fun ident =>
      ((c.nets.toList.map fun n => (n.name, n.id)).find? fun x => x.1 == ident).map (·.2) := by
  unfold findNet?
  refine congrArg _ (funext fun ident => ?_)
  rw [List.find?_map, Option.map_map]
  exact (Option.map_eq_bind ..).symm

/-- A name that finds a net goes on to find it. -/
theorem Keeps.findNet?_eq_some {c c' : Chip} (h : c.Keeps c') {name : String} {id : NetId}
    (hfound : c.findNet? name = some id) : c'.findNet? name = some id := by
  rw [findNet?_eq] at hfound ⊢
  obtain ⟨ident, hident, hfound⟩ := Option.bind_eq_some_iff.1 hfound
  obtain ⟨x, hx, rfl⟩ := Option.map_eq_some_iff.1 hfound
  -- the search stops in the old part of the list
  obtain ⟨later, hlater⟩ := h.prefix_nets
  rw [NameTable.get?_of_prefix h.names hident, Option.bind_some, ← hlater, List.find?_append, hx]
  rfl

/-! ### The law -/

/-- What an instantiation binds before it is refused, and has to release, nobody held before it or
at any earlier time. -/
theorem Keeps.endpoint_eq_none_of_mem_bound {c c' : Chip} (h : c.Keeps c') {d : Component}
    {inputs outputs : List NetId} (hadm : c'.Admissible d inputs outputs) {e : NetEnd}
    (he : e ∈ (c'.bindingFor inputs outputs).bound) {n : Net} (hn : c.net? e.net = some n) :
    n.endpoint e.slot = none := by
  have hstop :=
    stopped_bindAll ⟨c'.instances.next⟩ (endsOf inputs outputs) c'.nets hadm.endsOf_exist
  obtain ⟨m, hm, hnone⟩ := hstop.wasOpen e he
  obtain ⟨n', hn', -, -, -, hheld⟩ := h.nets hn
  obtain rfl : m = n' := Option.some.inj (hm.symm.trans hn')
  -- had the end been held, it would be held still
  cases hend : n.endpoint e.slot with
  | none => rfl
  | some holder =>
    rw [hheld e.slot holder hend] at hnone
    cases hnone

/-- **A chip only grows.** Whatever calls follow on a reachable chip, refused ones included, its
nets and instances stay where and what they are, its names keep their numbers, ends that are held
keep their holders, and names that find a net find the same net. If an instantiation is refused in
the middle of its binds then, the chip is as before it, and the ends released by the rollback are
none that were held. -/
theorem Reachable.persists {c : Chip} (h : c.Reachable) (calls : List Call) :
    c.Keeps (c.run calls) ∧
      (∀ id n, c.net? id = some n → (c.run calls).netName id = c.netName id) ∧
      (∀ id i, c.instance? id = some i → (c.run calls).instanceName id = c.instanceName id) ∧
      (∀ name id, c.findNet? name = some id → (c.run calls).findNet? name = some id) ∧
      ∀ d inputs outputs refusal, (c.run calls).Admissible d inputs outputs →
        ((c.run calls).bindingFor inputs outputs).refused = some refusal →
        ((c.run calls).instantiate d inputs outputs).chip = c.run calls ∧
          ∀ e ∈ ((c.run calls).bindingFor inputs outputs).bound, ∀ n, c.net? e.net = some n →
            n.endpoint e.slot = none := by
  have hkeeps := c.keeps_run calls
  refine ⟨hkeeps, ?_, ?_, ?_, ?_⟩
  · intro id n hn
    exact hkeeps.netName_eq h.named hn
  · intro id i hi
    exact hkeeps.instanceName_eq h.named hi
  · intro name id hfound
    exact hkeeps.findNet?_eq_some hfound
  · intro d inputs outputs refusal hadm hrefused
    refine ⟨(instantiate_of_refused hadm hrefused).2, ?_⟩
    intro e he n hn
    exact hkeeps.endpoint_eq_none_of_mem_bound hadm he hn

/-- A wire is added to the loop, and a second mixer is refused: it has bound the new wire when it
asks for the wire of the loop. The loop stays closed, and its wire is found. -/
theorem loopChip_persists : loopChip.Reachable ∧
    ∃ c, c = loopChip.run [.createInternal "w", .instantiate mixer [⟨3⟩, ⟨2⟩] [⟨3⟩, ⟨1⟩]] ∧
      c.findNet? "wire_2" = some ⟨2⟩ ∧ c.instanceName ⟨0⟩ = "inst_0_Mixer" ∧
      (∃ n, c.net? ⟨2⟩ = some n ∧ n.driver = some (.instance ⟨0⟩)) ∧
      (c.bindingFor [⟨3⟩, ⟨2⟩] [⟨3⟩, ⟨1⟩]).bound = [⟨⟨3⟩, .load⟩] ∧
      (c.instantiate mixer [⟨3⟩, ⟨2⟩] [⟨3⟩, ⟨1⟩]).chip = c := by
  obtain ⟨hkeeps, -, hnames, hfound, hrefused⟩ := Reachable.persists loopChip_reachable
    [.createInternal "w", .instantiate mixer [⟨3⟩, ⟨2⟩] [⟨3⟩, ⟨1⟩]]
  refine ⟨loopChip_reachable, _, rfl, hfound "wire_2" ⟨2⟩ rfl, hnames ⟨0⟩ _ rfl, ?_, rfl, ?_⟩
  · have hwire : loopChip.net? ⟨2⟩ = some _ := rfl
    obtain ⟨n, hn, -, -, -, hheld⟩ := hkeeps.nets hwire
    exact ⟨n, hn, hheld .driver _ rfl⟩
  · exact (hrefused mixer _ _ _ ⟨rfl, by decide, by decide⟩ rfl).1

end Netlist.Chip
