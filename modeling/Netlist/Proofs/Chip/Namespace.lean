import Netlist.Proofs.Chip.Growth

/-!
# The namespace of a chip

A chip keeps the names of its nets and instances as numbers into one table. Two invariants of
reachable chips are proved here.

* `Named`: the numbers of nets and instances have names, and everything in the table, the chip's
  own name and the names of the components are identifiers. This holds without any bound.
* `Separate`: the table has no name twice, and its names are the three signals of every net and the
  names of the instances, nothing more and nothing less. This needs the suffixes of automatic names
  not to have run out, which is why it is stated for tables of fewer than `idLimit` names
  (`Reachable.separate`).

Both follow what the list of net names and the list of instance names become when a chip grows: one
of them gets one name more at its end, the other stays as it is (`netNames_withNet` and the three
lemmas behind it). `Named` is what keeps the old numbers in front of the new part of the table.

What the emitted module relies on is drawn at the end: a signal belongs to one net only
(`Separate.eq_of_mem_handshake`).
-/

open scoped List

namespace Netlist.Chip

/-- The names of the nets, oldest first. -/
def netNames (c : Chip) : List String :=
  c.nets.toList.map c.nameOf

/-- The names of the instances, oldest first. -/
def instanceNames (c : Chip) : List String :=
  c.instances.toList.map fun i => c.names.resolve i.name

/-- **Everything is named by identifiers.** -/
structure Named (c : Chip) : Prop where
  name : IsIdentifier c.name
  table : ∀ s ∈ c.names.toList, IsIdentifier s
  net : ∀ n ∈ c.nets.toList, n.name.index < c.names.size
  inst : ∀ i ∈ c.instances.toList, i.name.index < c.names.size
  component : ∀ i ∈ c.instances.toList, IsIdentifier i.component.name

/-! ### Growing lists of names -/

section Growing

variable {c : Chip}

/-- A net's own name is claimed first; the claims of its strobe and acknowledge cannot move it. -/
theorem prefix_claimAll_handshake (t : NameTable) (name : String) :
    (t.claim name).toList <+: (t.claimAll (handshake name)).toList :=
  (t.claim name).prefix_claimAll [name ++ strobeEnding, name ++ acknowledgeEnding]

/-- Nets and instances that are named keep their names while the table grows. -/
theorem map_resolve_of_prefix {α : Type} {t u : NameTable} {ids : α → Ident} {l : List α}
    (h : t.toList <+: u.toList) (hids : ∀ x ∈ l, (ids x).index < t.size) :
    (l.map fun x => u.resolve (ids x)) = l.map fun x => t.resolve (ids x) :=
  List.map_congr_left fun x hx => NameTable.resolve_of_prefix h (hids x hx)

/-- The name of a new net is the last one; the others are those of before. -/
theorem netNames_withNet (h : c.Named) (name : String) (kind : NetKind) :
    (c.withNet name kind).netNames = c.netNames ++ [name] := by
  have hold :
      (c.nets.toList.map fun n : Net => (c.names.claimAll (handshake name)).resolve n.name) =
        c.netNames := map_resolve_of_prefix (NameTable.prefix_claimAll ..) h.net
  -- the number was handed out for this name, and the later claims have not moved it
  have hnew : (c.names.claimAll (handshake name)).resolve (c.names.claimedId name) = name := by
    rw [NameTable.resolve_of_prefix (prefix_claimAll_handshake ..) (c.names.claimedId_lt_size name),
      NameTable.resolve_claimedId]
  calc
    (c.withNet name kind).netNames =
        (c.nets.toList ++ [Net.fresh ⟨c.nets.next⟩ (c.names.claimedId name) kind]).map
          fun n : Net => (c.names.claimAll (handshake name)).resolve n.name := rfl
    _ = c.netNames ++ [(c.names.claimAll (handshake name)).resolve (c.names.claimedId name)] := by
        rw [List.map_append, hold]
        rfl
    _ = c.netNames ++ [name] := by rw [hnew]

/-- A new net changes no name of an instance. -/
theorem instanceNames_withNet (h : c.Named) (name : String) (kind : NetKind) :
    (c.withNet name kind).instanceNames = c.instanceNames :=
  map_resolve_of_prefix (NameTable.prefix_claimAll ..) h.inst

variable {id : InstanceId} {ends : List NetEnd} {nets : Arena Net}

/-- A new instance changes no name of a net, although it holds ends of some. -/
theorem netNames_withInstance (h : c.Named) (hpasses : Passes id ends c.nets nets) (name : String)
    (d : Component) (inputs outputs : List NetId) :
    (c.withInstance name d inputs outputs nets).netNames = c.netNames := by
  calc
    (c.withInstance name d inputs outputs nets).netNames =
        nets.toList.map fun n : Net => (c.names.claim name).resolve n.name := rfl
    _ = c.nets.toList.map fun n : Net => (c.names.claim name).resolve n.name :=
        hpasses.map_eq fun n n' hname _ => by rw [hname]
    _ = c.netNames := map_resolve_of_prefix (NameTable.prefix_claim ..) h.net

/-- The name of a new instance is the last one. -/
theorem instanceNames_withInstance (h : c.Named) (name : String) (d : Component)
    (inputs outputs : List NetId) (nets : Arena Net) :
    (c.withInstance name d inputs outputs nets).instanceNames = c.instanceNames ++ [name] := by
  have hold : (c.instances.toList.map fun i : Instance => (c.names.claim name).resolve i.name) =
      c.instanceNames := map_resolve_of_prefix (NameTable.prefix_claim ..) h.inst
  calc
    (c.withInstance name d inputs outputs nets).instanceNames =
        (c.instances.toList ++
            [Instance.mk ⟨c.instances.next⟩ (c.names.claimedId name) d inputs outputs]).map
          fun i : Instance => (c.names.claim name).resolve i.name := rfl
    _ = c.instanceNames ++ [(c.names.claim name).resolve (c.names.claimedId name)] := by
        rw [List.map_append, hold]
        rfl
    _ = c.instanceNames ++ [name] := by rw [NameTable.resolve_claimedId]

end Growing

/-! ### Everything is named by identifiers -/

/-- In an empty chip only the chip itself is named. -/
theorem Named.empty {name : String} (h : IsIdentifier name) :
    Named ⟨name, .empty, .empty, .empty⟩ := by
  -- there is no name, no net and no instance to ask about
  refine ⟨h, ?_, ?_, ?_, ?_⟩ <;> exact fun _ hx => nomatch hx

/-- A net is named by an identifier, and so are its strobe and its acknowledge. -/
theorem Named.withNet {c : Chip} (h : c.Named) {name : String} (kind : NetKind)
    (valid : IsIdentifier name) : (c.withNet name kind).Named := by
  have hprefix := c.names.prefix_claimAll (handshake name)
  have hsize : c.names.size ≤ (c.names.claimAll (handshake name)).size := hprefix.length_le
  refine ⟨h.name, fun s hs => ?_, fun n hn => ?_, fun i hi => (h.inst i hi).trans_le hsize,
    h.component⟩
  · -- the three signals of the new net, of which only the first has been checked
    rcases NameTable.mem_claimAll.1 hs with hs | hs
    · exact h.table s hs
    · exact isIdentifier_of_mem_handshake valid hs
  · -- the nets of before have numbers of the smaller table, the new one has a number of the larger
    rcases List.mem_append.1 hn with hn | hn
    · exact (h.net n hn).trans_le hsize
    · obtain rfl := List.mem_singleton.1 hn
      exact (c.names.claimedId_lt_size name).trans_le (prefix_claimAll_handshake ..).length_le

/-- An instance and its component are named by identifiers. -/
theorem Named.withInstance {c : Chip} (h : c.Named) {name : String} {d : Component}
    {inputs outputs : List NetId} {nets : Arena Net} (valid : IsIdentifier name)
    (admissible : c.Admissible d inputs outputs)
    (passes : Passes ⟨c.instances.next⟩ (endsOf inputs outputs) c.nets nets) :
    (c.withInstance name d inputs outputs nets).Named := by
  have hsize : c.names.size ≤ (c.names.claim name).size := (c.names.prefix_claim name).length_le
  refine ⟨h.name, fun s hs => ?_, fun n hn => ?_, fun i hi => ?_, fun i hi => ?_⟩
  · -- the name of the new instance, made from a number and a component
    rcases NameTable.mem_claim.1 hs with hs | rfl
    · exact h.table s hs
    · exact valid
  · -- a net that has been passed an end keeps its name
    obtain ⟨k, hk⟩ := Arena.mem_toList_iff.1 hn
    obtain ⟨n₀, hn₀, -, hname, -⟩ := passes.get_back hk
    rw [hname]
    exact (h.net n₀ (Arena.mem_toList_iff.2 ⟨k, hn₀⟩)).trans_le hsize
  · -- the instances of before, and the new one
    rcases List.mem_append.1 hi with hi | hi
    · exact (h.inst i hi).trans_le hsize
    · obtain rfl := List.mem_singleton.1 hi
      exact c.names.claimedId_lt_size name
  · rcases List.mem_append.1 hi with hi | hi
    · exact h.component i hi
    · obtain rfl := List.mem_singleton.1 hi
      exact admissible.name

/-- However a chip grows, everything stays named by identifiers. -/
theorem Named.grows {c c' : Chip} (h : c.Named) (hg : Grows c c') : c'.Named := by
  cases hg with
  | addsNet name kind valid _ => exact h.withNet kind valid
  | addsInstance name d inputs outputs nets valid _ admissible passes _ _ =>
    exact h.withInstance valid admissible passes

/-- In a reachable chip everything is named by identifiers. -/
theorem Reachable.named {c : Chip} (h : c.Reachable) : c.Named :=
  h.invariant (fun _ hname => .empty hname) fun _ hn hg => hn.grows hg

/-! ### Nothing is named twice -/

/-- **The table names each thing once**: it has no name twice, and its names are those of the
signals and the instances. -/
structure Separate (c : Chip) : Prop where
  nodup : c.names.toList.Nodup
  perm : c.names.toList.Perm (c.netNames.flatMap handshake ++ c.instanceNames)

/-- The table of a chip that grows keeps what it has, in its place. -/
theorem Grows.prefix_names {c c' : Chip} (h : Grows c c') : c.names.toList <+: c'.names.toList := by
  cases h with
  | addsNet name _ _ _ => exact c.names.prefix_claimAll _
  | addsInstance name _ _ _ _ _ _ _ _ _ _ => exact c.names.prefix_claim name

/-- Without names nothing is named twice. -/
theorem Separate.empty (name : String) : Separate ⟨name, .empty, .empty, .empty⟩ :=
  ⟨List.nodup_nil, List.Perm.refl []⟩

/-- A net whose signals are new is named apart from everything else. -/
theorem Separate.withNet {c : Chip} (h : c.Separate) (hnamed : c.Named) {name : String}
    (kind : NetKind) (free : ∀ s ∈ handshake name, s ∉ c.names.toList) :
    (c.withNet name kind).Separate := by
  have htable : (c.withNet name kind).names.toList = c.names.toList ++ handshake name :=
    NameTable.toList_claimAll_of_free (nodup_handshake name) free
  refine ⟨NameTable.nodup_claimAll h.nodup, ?_⟩
  rw [htable, netNames_withNet hnamed, instanceNames_withNet hnamed, List.flatMap_append,
    List.flatMap_singleton]
  -- the table lists names by age, the right-hand side all signals before all instances
  calc
    c.names.toList ++ handshake name
    _ ~ (c.netNames.flatMap handshake ++ c.instanceNames) ++ handshake name :=
      h.perm.append_right _
    _ ~ (c.netNames.flatMap handshake ++ handshake name) ++ c.instanceNames := by
      rw [List.append_assoc, List.append_assoc]
      exact List.perm_append_comm.append_left _

/-- So is an instance whose name is new. -/
theorem Separate.withInstance {c : Chip} (h : c.Separate) (hnamed : c.Named) {name : String}
    {d : Component} {inputs outputs : List NetId} {nets : Arena Net}
    (passes : Passes ⟨c.instances.next⟩ (endsOf inputs outputs) c.nets nets)
    (free : name ∉ c.names.toList) : (c.withInstance name d inputs outputs nets).Separate := by
  -- the name of an instance goes to the end on both sides, so nothing has to be moved
  have htable : (c.withInstance name d inputs outputs nets).names.toList =
      c.names.toList ++ [name] := NameTable.toList_claim_of_not_mem free
  refine ⟨NameTable.nodup_claim h.nodup, ?_⟩
  rw [htable, netNames_withInstance hnamed passes, instanceNames_withInstance hnamed,
    ← List.append_assoc]
  exact h.perm.append_right _

/-- As long as there is room for names, nothing is named twice however the chip grows. -/
theorem Separate.grows {c c' : Chip} (h : c.Separate) (hnamed : c.Named) (hg : Grows c c')
    (hfew : c.names.size < idLimit) : c'.Separate := by
  cases hg with
  | addsNet name kind _ free => exact h.withNet hnamed kind (free hfew)
  | addsInstance name d inputs outputs nets _ free _ passes _ _ =>
    exact h.withInstance hnamed passes (free hfew)

/-- A chip with fewer than `idLimit` names has never had more, so no search for a free name has come
to its limit. -/
theorem Reachable.separate {c : Chip} (h : c.Reachable) (hfew : c.names.size < idLimit) :
    c.Separate := by
  refine h.invariant (P := fun c => c.names.size < idLimit → c.Separate)
    (fun name _ _ => .empty name) (fun {c c'} hc ih hg hfew' => ?_) hfew
  -- names are never given up, so a chip that has few now had few at every step
  have hbefore : c.names.size < idLimit := hg.prefix_names.length_le.trans_lt hfew'
  exact (ih hbefore).grows hc.named hg hbefore

/-! ### What the invariants mean -/

/-- The name of a net that is there is the one its number stands for. -/
theorem netName_eq {c : Chip} {id : NetId} {n : Net} (hn : c.net? id = some n) :
    c.netName id = c.nameOf n := by
  rw [netName, hn]
  rfl

/-- The name of a net has been claimed. -/
theorem Named.nameOf_mem {c : Chip} (h : c.Named) {n : Net} (hn : n ∈ c.nets.toList) :
    c.nameOf n ∈ c.names.toList :=
  NameTable.resolve_mem (h.net n hn)

/-- A signal belongs to one net. -/
theorem Separate.eq_of_mem_handshake {c : Chip} (h : c.Separate) {j k : Nat} {n m : Net}
    (hj : c.nets.get? j = some n) (hk : c.nets.get? k = some m) {s : String}
    (hn : s ∈ handshake (c.nameOf n)) (hm : s ∈ handshake (c.nameOf m)) : j = k := by
  have hnodup : (c.netNames.flatMap handshake).Nodup :=
    (List.nodup_append.1 (h.perm.nodup_iff.1 h.nodup)).1
  have hpairwise := (List.nodup_flatMap.1 hnodup).2
  -- the signals of any two nets at different places are disjoint
  rw [netNames, List.pairwise_map, List.pairwise_iff_getElem] at hpairwise
  obtain ⟨hlt, rfl⟩ := List.getElem?_eq_some_iff.1 hj
  obtain ⟨hlt', rfl⟩ := List.getElem?_eq_some_iff.1 hk
  rcases Nat.lt_trichotomy j k with hjk | hjk | hjk
  · exact absurd hm (hpairwise j k hlt hlt' hjk hn)
  · exact hjk
  · exact absurd hn (hpairwise k j hlt' hlt hjk hm)

end Netlist.Chip
