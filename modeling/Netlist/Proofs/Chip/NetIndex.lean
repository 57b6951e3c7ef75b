import Netlist.Proofs.Answers
import Netlist.Proofs.Chip.Creations
import Netlist.Proofs.Chip.Design
import Netlist.Proofs.Chip.Persistence

/-!
# Nets are found by their names

`findNet?` looks a name up in the name table and then goes through the nets for the one of that
number. A look-up that should not take longer the more nets there are would keep an index instead:
the number of each net under the number of its name, entered when the net is created.
`Chip.indexAfter` fills such an index along a run. A call that creates a net enters it; calls for
instances enter nothing, although they claim names as well, and a refused call leaves the index as
it is (`indexAfter_of_refused`). What has been entered stays, and is never hidden by what comes
later (`Reachable.index_persists`).

The index of a run and the nets at its end tell the same (`indexAfter_netEntries`), so it makes no
difference which of them is asked (`Legible.findNet?_eq_lookup`). Both find a net under its own name
and under no other: what else is in the table, strobes, acknowledges and the names of instances, is
the name of no net (`Separate.findsByName`).
-/

namespace Netlist

namespace Chip

/-! ### The index of a run -/

/-- The number of each net, with the number of its name in front, oldest net first. -/
def netEntries (c : Chip) : List (Ident × NetId) :=
  c.nets.toList.map fun n => (n.name, n.id)

/-- What a call enters into the index: the net that it has created, under the number that its name
has got; nothing if it has created none. -/
def entriesOf (c : Chip) (k : Call) : List (Ident × NetId) :=
  match c.creationOf k, (c.perform k).outcome with
  | .net name, .ok (.net id) => [(c.names.claimedId name, id)]
  | _, _ => []

/-- **The index after a run.** The newest entries come first, so that an entry would hide an older
one under the same number. -/
def indexAfter (c : Chip) (index : List (Ident × NetId)) : List Call → List (Ident × NetId)
  | [] => index
  | k :: rest => (c.perform k).chip.indexAfter (c.entriesOf k ++ index) rest

section Entries

variable {c : Chip} {k : Call}

/-- A new net is entered under the number that its name is given. -/
theorem netEntries_withNet (c : Chip) (name : String) (kind : NetKind) :
    (c.withNet name kind).netEntries =
      c.netEntries ++ [(c.names.claimedId name, ⟨c.nets.next⟩)] :=
  List.map_append

/-- Nets keep their numbers and names when their ends are passed. -/
theorem netEntries_withInstance {id : InstanceId} {ends : List NetEnd} {nets : Arena Net}
    (hpasses : Passes id ends c.nets nets) (name : String) (d : Component)
    (inputs outputs : List NetId) :
    (c.withInstance name d inputs outputs nets).netEntries = c.netEntries := by
  have hlength : nets.toList.length = c.nets.toList.length := hpasses.size_eq
  change nets.toList.map _ = c.nets.toList.map _
  -- place by place: the net is the one of before, with another holder at some ends
  refine List.ext_getElem (by rw [List.length_map, List.length_map, hlength]) fun k hk hk' => ?_
  rw [List.length_map] at hk hk'
  have hget : c.nets.get? k = some c.nets.toList[k] := List.getElem?_eq_getElem hk'
  obtain ⟨n', hn', hid, hname, -⟩ := hpasses.get hget
  obtain rfl : nets.toList[k] = n' :=
    Option.some.inj ((List.getElem?_eq_getElem hk).symm.trans hn')
  rw [List.getElem_map, List.getElem_map, hname, hid]

/-- A refused call enters nothing. -/
theorem entriesOf_of_refused {e : NetlistError} (h : (c.perform k).outcome = .error e) :
    c.entriesOf k = [] := by
  rw [entriesOf, h]
  cases c.creationOf k <;> rfl

/-- A net that is created gets the next number. -/
theorem eq_next_of_createNet {name : String} {kind : NetKind} {id : NetId}
    (h : (c.createNet name kind).outcome = .ok id) : id = ⟨c.nets.next⟩ := by
  obtain ⟨-, hname, hfree⟩ := createNet_of_ok h
  unfold createNet at h
  rw [checkIdentifier_eq_ok_iff.2 hname] at h
  simp only [clash?_eq_none_iff.2 hfree] at h
  exact (Except.ok.inj h).symm

/-! What a call enters is what it adds to the nets, if it creates a net under a name that the caller
has chosen, and if it adds an instance. -/

/-- Under a chosen name, the net that is added is the net that is entered. -/
theorem netEntries_perform_of_createNet {name : String} {kind : NetKind}
    (hk : c.perform k = (c.createNet name kind).map .net) (hcreation : c.creationOf k = .net name)
    {issued : Issued} (hok : (c.perform k).outcome = .ok issued) :
    (c.perform k).chip.netEntries = c.netEntries ++ c.entriesOf k := by
  obtain ⟨id, hid⟩ := Step.outcome_of_map (hk ▸ hok)
  have hchip : (c.perform k).chip = c.withNet name kind := by
    rw [hk]
    exact (createNet_of_ok hid).1
  have hentries : c.entriesOf k = [(c.names.claimedId name, ⟨c.nets.next⟩)] := by
    rw [entriesOf, hcreation, hk, Step.map, hid, eq_next_of_createNet hid]
    rfl
  rw [hchip, hentries, netEntries_withNet]

/-- For an instance nothing is entered, and no net is added. -/
theorem netEntries_perform_of_instantiate {d : Component} {inputs outputs : List NetId}
    (hk : c.perform k = (c.instantiate d inputs outputs).map .instance)
    {issued : Issued} (hok : (c.perform k).outcome = .ok issued) :
    (c.perform k).chip.netEntries = c.netEntries ++ c.entriesOf k := by
  obtain ⟨id, hid⟩ := Step.outcome_of_map (hk ▸ hok)
  obtain ⟨-, nets, hpasses, hchip⟩ := instantiate_of_ok hid
  have hchip' : (c.perform k).chip = _ := (congrArg Step.chip hk).trans hchip
  have hentries : c.entriesOf k = [] := by
    rw [entriesOf, hk, Step.map, hid]
    cases c.creationOf k <;> rfl
  rw [hchip', netEntries_withInstance hpasses, hentries, List.append_nil]

/-- **One call** enters into the index what it adds to the nets. -/
theorem netEntries_perform (c : Chip) (k : Call) :
    (c.perform k).chip.netEntries = c.netEntries ++ c.entriesOf k := by
  cases hok : (c.perform k).outcome with
  | error e =>
    rw [(c.perform_allOrNothing k).chip_eq hok, entriesOf_of_refused hok, List.append_nil]
  | ok issued =>
    cases k with
    | createWire => exact netEntries_withNet c c.nextWireName .internal
    | createInternal name | createBoundaryInput name | createBoundaryOutput name =>
      -- the three calls differ in the kind of the net, which is not in the index
      exact netEntries_perform_of_createNet rfl rfl hok
    | instantiate d inputs outputs => exact netEntries_perform_of_instantiate rfl hok
    | instantiateByName d connections =>
      obtain ⟨id, hid⟩ := Step.outcome_of_map hok
      obtain ⟨inputs, outputs, -, hsame⟩ := instantiateByName_of_ok hid
      exact netEntries_perform_of_instantiate (congrArg (Step.map Issued.instance) hsame) hok

end Entries

/-- **The index of a run is the list of the nets**, the newest first. -/
theorem indexAfter_netEntries (c : Chip) (calls : List Call) :
    c.indexAfter c.netEntries.reverse calls = (c.run calls).netEntries.reverse := by
  -- from the first call on; the chip that it leaves and the index that it leaves go together
  induction calls generalizing c with
  | nil => rfl
  | cons k calls ih =>
    have hfirst :
        c.entriesOf k ++ c.netEntries.reverse = (c.perform k).chip.netEntries.reverse := by
      -- there is at most one entry, so it does not matter that it is not turned round
      have hone : (c.entriesOf k).reverse = c.entriesOf k := by
        unfold entriesOf
        split <;> rfl
      rw [netEntries_perform, List.reverse_append, hone]
    rw [indexAfter, hfirst]
    exact ih (c.perform k).chip

/-- **A refused call leaves the index as it is**, and the chip as well: what follows goes on as if
the call had not been made. -/
theorem indexAfter_of_refused {c : Chip} {k : Call} {e : NetlistError}
    (h : (c.perform k).outcome = .error e) (index : List (Ident × NetId)) (calls : List Call) :
    c.indexAfter index [k] = index ∧
      c.indexAfter index (k :: calls) = c.indexAfter index calls := by
  have hchip : (c.perform k).chip = c := (c.perform_allOrNothing k).chip_eq h
  rw [indexAfter, indexAfter, indexAfter, entriesOf_of_refused h, hchip]
  exact ⟨rfl, rfl⟩

/-- Where no two nets go by one name, no number of a name is in the index twice. -/
theorem Legible.nodup_netEntries {c : Chip} (h : c.Legible) :
    (c.netEntries.map Prod.fst).Nodup := by
  have hnames := h.nodup
  -- nets of one number would go by the same name
  rw [netNames, show c.nameOf = c.names.resolve ∘ Net.name from rfl, ← List.map_map] at hnames
  rw [netEntries, List.map_map]
  exact hnames.of_map

/-- Nor is it when the newest entry comes first. -/
theorem Legible.nodup_reverse_netEntries {c : Chip} (h : c.Legible) :
    (c.netEntries.reverse.map Prod.fst).Nodup := by
  rw [List.map_reverse, List.nodup_reverse]
  exact h.nodup_netEntries

/-- **It makes no difference whether the nets are gone through or the index is asked.** -/
theorem Legible.findNet?_eq_lookup {c : Chip} (h : c.Legible) (name : String) :
    c.findNet? name = (c.names.get? name).bind fun ident => c.netEntries.reverse.lookup ident := by
  rw [findNet?_eq]
  refine congrArg _ (funext fun ident => ?_)
  -- no number comes twice, so the newest entry first finds what the oldest first does
  have hreverse : c.netEntries.lookup ident = c.netEntries.reverse.lookup ident :=
    lookup_eq_of_perm c.netEntries.reverse_perm.symm h.nodup_netEntries ident
  have hfind : c.netEntries.lookup ident =
      (c.netEntries.find? fun x => x.1 == ident).map (·.2) := by
    simpa using lookup_map_eq_map_find? Prod.fst Prod.snd c.netEntries ident
  rw [← hreverse, hfind]
  rfl

/-- **The index only grows.** Whatever calls follow on a reachable chip, its entries stay in the
index, behind those that are new, and none of them is hidden: a number that finds a net finds the
same net ever after. -/
theorem Reachable.index_persists {c : Chip} (h : c.Reachable) (calls : List Call)
    (hfew : (c.run calls).names.size < idLimit) :
    (∃ new, c.indexAfter c.netEntries.reverse calls = new ++ c.netEntries.reverse) ∧
      ∀ ident id, c.netEntries.reverse.lookup ident = some id →
        (c.indexAfter c.netEntries.reverse calls).lookup ident = some id := by
  rw [indexAfter_netEntries]
  obtain ⟨later, hlater⟩ : c.netEntries <+: (c.run calls).netEntries :=
    (c.keeps_run calls).prefix_nets
  rw [← hlater, List.reverse_append]
  refine ⟨⟨_, rfl⟩, fun ident id hfound => ?_⟩
  have hlegible : (c.run calls).Legible :=
    ((h.run calls).separate hfew).legible (h.run calls).named (h.run calls).wired
  -- a newer entry under the same number would make it come twice
  have hnodup := hlegible.nodup_reverse_netEntries
  rw [← hlater, List.reverse_append] at hnodup
  have hold : (c.netEntries.reverse.map Prod.fst).Nodup := by
    rw [List.map_append] at hnodup
    exact (List.nodup_append.1 hnodup).2.1
  rw [lookup_eq_some_iff_of_nodup hnodup]
  exact List.mem_append_right _ ((lookup_eq_some_iff_of_nodup hold).1 hfound)

/-! ### Names and nets -/

/-- **Look-up is the inverse of naming.** -/
structure FindsByName (c : Chip) : Prop where
  /-- A name finds the net that goes by it. -/
  findNet?_eq_some_iff : ∀ name id,
    c.findNet? name = some id ↔ id.index < c.netCount ∧ c.netName id = name
  findNet?_netName : ∀ id, id.index < c.netCount → c.findNet? (c.netName id) = some id
  /-- Strobes and acknowledges find nothing. -/
  findNet?_strobe : ∀ id, id.index < c.netCount → c.findNet? (c.netName id ++ strobeEnding) = none
  findNet?_acknowledge : ∀ id, id.index < c.netCount →
    c.findNet? (c.netName id ++ acknowledgeEnding) = none
  findNet?_instanceName : ∀ id, id.index < c.instanceCount → c.findNet? (c.instanceName id) = none
  /-- A name that has not been claimed finds nothing. -/
  findNet?_of_unused : ∀ name, name ∉ c.names.toList → c.findNet? name = none

/-- What a name finds is the net of the chip that goes by it. -/
theorem Legible.findNet?_eq_some_iff_netName {c : Chip} (h : c.Legible) {name : String}
    {id : NetId} : c.findNet? name = some id ↔ id.index < c.netCount ∧ c.netName id = name := by
  rw [h.findNet?_eq_some_iff]
  constructor
  · rintro ⟨n, hn, rfl⟩
    exact ⟨Arena.lt_size_of_get? hn, netName_eq hn⟩
  · rintro ⟨hlt, rfl⟩
    obtain ⟨n, hn⟩ := Arena.exists_get? hlt
    exact ⟨n, hn, (netName_eq hn).symm⟩

/-- What is found under a signal of a net is that net, and only its own name finds it. -/
theorem Separate.findNet?_eq_none_of_mem_handshake {c : Chip} (h : c.Separate) (hc : c.Legible)
    {id : NetId} (hid : id.index < c.netCount) {s : String} (hs : s ∈ handshake (c.netName id))
    (hne : s ≠ c.netName id) : c.findNet? s = none := by
  refine Option.eq_none_iff_forall_ne_some.2 fun id' hfound => hne ?_
  obtain ⟨m, hm, rfl⟩ := hc.findNet?_eq_some_iff.1 hfound
  obtain ⟨n, hn⟩ := Arena.exists_get? hid
  rw [netName_eq hn] at hs ⊢
  -- the two nets share a signal, so they are one
  have hplace : id' = id :=
    NetId.ext (h.eq_of_mem_handshake hm hn (mem_handshake.2 (Or.inl rfl)) hs)
  subst hplace
  rw [Option.some.inj (hm.symm.trans hn)]

/-- The name of an instance is that of no net. -/
theorem Separate.findNet?_instanceName {c : Chip} (h : c.Separate) (hc : c.Legible)
    {id : InstanceId} (hid : id.index < c.instanceCount) :
    c.findNet? (c.instanceName id) = none := by
  refine Option.eq_none_iff_forall_ne_some.2 fun netId hfound => ?_
  obtain ⟨m, hm, hname⟩ := hc.findNet?_eq_some_iff.1 hfound
  obtain ⟨i, hi⟩ := Arena.exists_get? hid
  have hinstance : c.instanceName id ∈ c.instanceNames := by
    rw [instanceName, instance?, hi]
    exact List.mem_map_of_mem (Arena.mem_toList_iff.2 ⟨_, hi⟩)
  have hnet : c.instanceName id ∈ c.netNames.flatMap handshake := by
    rw [← hname]
    exact List.mem_flatMap.2 ⟨_, List.mem_map_of_mem (Arena.mem_toList_iff.2 ⟨_, hm⟩),
      mem_handshake.2 (Or.inl rfl)⟩
  exact (List.nodup_append.1 (h.perm.nodup_iff.1 h.nodup)).2.2 _ hnet _ hinstance rfl

/-- Where nothing is named twice, looking up is the inverse of naming. -/
theorem Separate.findsByName {c : Chip} (h : c.Separate) (hc : c.Legible) : c.FindsByName where
  findNet?_eq_some_iff _ _ := hc.findNet?_eq_some_iff_netName
  findNet?_netName _ hid := hc.findNet?_eq_some_iff_netName.2 ⟨hid, rfl⟩
  findNet?_strobe id hid := by
    have hnew := (List.nodup_cons.1 (nodup_handshake (c.netName id))).1
    exact h.findNet?_eq_none_of_mem_handshake hc hid (mem_handshake.2 (Or.inr (Or.inl rfl)))
      (List.ne_of_not_mem_cons hnew).symm
  findNet?_acknowledge id hid := by
    have hnew := (List.nodup_cons.1 (nodup_handshake (c.netName id))).1
    exact h.findNet?_eq_none_of_mem_handshake hc hid (mem_handshake.2 (Or.inr (Or.inr rfl)))
      (List.ne_of_not_mem_cons (List.not_mem_of_not_mem_cons hnew)).symm
  findNet?_instanceName _ hid := h.findNet?_instanceName hc hid
  findNet?_of_unused name hname := by
    -- what is found is a name of a net, and those are claimed
    refine Option.eq_none_iff_forall_ne_some.2 fun id hfound => hname ?_
    obtain ⟨n, hn, rfl⟩ := hc.findNet?_eq_some_iff.1 hfound
    exact hc.named.nameOf_mem (Arena.mem_toList_iff.2 ⟨_, hn⟩)

end Chip

end Netlist
