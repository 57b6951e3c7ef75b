import Netlist.Proofs.Chip.Namespace
import Netlist.Proofs.Chip.Outcome

/-!
# Which names a net can take

A chip decides about the name of a new net by looking three strings up in a table of everything that
was ever claimed. Here the decision is said of the names of the nets and instances themselves.

The table is read back first: it holds the signals of the nets, the names of the instances, and
nothing else (`Reachable.mem_names_iff`). Each kind of growth adds the same names to both sides, so
this needs no bound on the size of the chip, although a table that is full may hold one name for two
things.

The rest is about strings. Two nets have three signals each, so there are nine ways for them to have
one in common. Four of these come to nothing new: an ending can be taken off both sides, and a
strobe's ending is not an acknowledge's. The other five are `NamesClash`, a relation between the
names of the nets alone, and it is symmetric. That is why it does not matter in which order two nets
are created (`Reachable.createNamed_exact`).
-/

namespace Netlist

/-- **Two nets cannot have these names at once**: the names are the same, or one of them is the
other with the ending of a strobe or of an acknowledge. -/
def NamesClash (n m : String) : Prop :=
  n = m ∨ n = m ++ strobeEnding ∨ n = m ++ acknowledgeEnding ∨
    m = n ++ strobeEnding ∨ m = n ++ acknowledgeEnding

/-- It makes no difference which of the two names is given first. -/
theorem NamesClash.symm {n m : String} (h : NamesClash n m) : NamesClash m n := by
  rcases h with rfl | h | h | h | h
  · exact Or.inl rfl
  · exact Or.inr (Or.inr (Or.inr (Or.inl h)))
  · exact Or.inr (Or.inr (Or.inr (Or.inr h)))
  · exact Or.inr (Or.inl h)
  · exact Or.inr (Or.inr (Or.inl h))

/-- The strobe of one net is not the acknowledge of another: their last letters differ. -/
theorem append_strobeEnding_ne (n m : String) : n ++ strobeEnding ≠ m ++ acknowledgeEnding := by
  intro h
  -- it is enough to look at the last letter
  have hb : (n ++ strobeEnding).toList.getLast? = some 'b' := by
    rw [String.toList_append, List.getLast?_append]
    rfl
  have hk : (m ++ acknowledgeEnding).toList.getLast? = some 'k' := by
    rw [String.toList_append, List.getLast?_append]
    rfl
  rw [h, hk] at hb
  exact absurd hb (by decide)

/-- **Names clash when their signals meet**: of the nine pairs of signals, these are the ones that
can coincide. -/
theorem namesClash_iff {n m : String} :
    NamesClash n m ↔ ∃ s ∈ handshake n, s ∈ handshake m := by
  constructor
  · have hself : ∀ k, k ∈ handshake k := fun k => mem_handshake.2 (Or.inl rfl)
    rintro (rfl | rfl | rfl | rfl | rfl)
    · exact ⟨n, hself n, hself n⟩
    · exact ⟨_, hself _, mem_handshake.2 (Or.inr (Or.inl rfl))⟩
    · exact ⟨_, hself _, mem_handshake.2 (Or.inr (Or.inr rfl))⟩
    · exact ⟨_, mem_handshake.2 (Or.inr (Or.inl rfl)), hself _⟩
    · exact ⟨_, mem_handshake.2 (Or.inr (Or.inr rfl)), hself _⟩
  · rintro ⟨s, hn, hm⟩
    -- which signal it is of the first net, then which it is of the second
    rcases mem_handshake.1 hn with rfl | rfl | rfl
    · rcases mem_handshake.1 hm with h | h | h
      · exact Or.inl h
      · exact Or.inr (Or.inl h)
      · exact Or.inr (Or.inr (Or.inl h))
    · rcases mem_handshake.1 hm with h | h | h
      · exact Or.inr (Or.inr (Or.inr (Or.inl h.symm)))
      · exact Or.inl ((String.append_left_inj _).1 h)
      · exact absurd h (append_strobeEnding_ne n m)
    · rcases mem_handshake.1 hm with h | h | h
      · exact Or.inr (Or.inr (Or.inr (Or.inr h.symm)))
      · exact absurd h.symm (append_strobeEnding_ne m n)
      · exact Or.inl ((String.append_left_inj _).1 h)

namespace Chip

/-! ### What is in the table -/

/-- The string stands for something in the module: it is a signal of a net, or the name of an
instance. -/
def Uses (c : Chip) (s : String) : Prop :=
  (∃ m ∈ c.netNames, s ∈ handshake m) ∨ s ∈ c.instanceNames

/-- **The table holds what the module uses**, and nothing else. -/
theorem Reachable.mem_names_iff {c : Chip} (h : c.Reachable) {s : String} :
    s ∈ c.names.toList ↔ c.Uses s := by
  -- both sides start empty, and each kind of growth adds the same to both
  refine h.invariant (P := fun c => ∀ s, s ∈ c.names.toList ↔ c.Uses s) ?_ ?_ s
  · intro name _ s
    exact iff_of_false List.not_mem_nil (by rintro (⟨_, hm, -⟩ | hs) <;> contradiction)
  · intro c c' hc ih hgrows s
    cases hgrows with
    | addsNet name kind _ _ =>
      -- the table gets the three signals of the new net
      have hnets : (c.withNet name kind).netNames = _ := netNames_withNet hc.named name kind
      have hinstances : (c.withNet name kind).instanceNames = _ :=
        instanceNames_withNet hc.named name kind
      have hmem : s ∈ (c.withNet name kind).names.toList ↔ _ := NameTable.mem_claimAll
      rw [Uses, hnets, hinstances, hmem, ih, Uses]
      simp only [List.mem_append, List.mem_singleton, or_and_right, exists_or, exists_eq_left]
      exact or_right_comm
    | addsInstance name d inputs outputs nets _ _ _ passes _ _ =>
      -- the nets keep their names, and the table gets the name of the instance
      have hnets : (c.withInstance name d inputs outputs nets).netNames = _ :=
        netNames_withInstance hc.named passes name d inputs outputs
      have hinstances : (c.withInstance name d inputs outputs nets).instanceNames = _ :=
        instanceNames_withInstance hc.named name d inputs outputs nets
      have hmem : s ∈ (c.withInstance name d inputs outputs nets).names.toList ↔ _ :=
        NameTable.mem_claim
      rw [Uses, hnets, hinstances, hmem, ih, Uses, List.mem_append, List.mem_singleton]
      exact or_assoc

/-! ### Which names are accepted -/

/-- Adds a net of the given kind under a name that the caller has chosen. -/
def createNamed (c : Chip) (name : String) : NetKind → Step NetId
  | .internal => c.createInternal name
  | .boundaryInput => c.createBoundaryInput name
  | .boundaryOutput => c.createBoundaryOutput name

/-- The three ways to add a net under a chosen name differ in nothing but its kind. -/
theorem createNamed_eq (c : Chip) (name : String) (kind : NetKind) :
    c.createNamed name kind = c.createNet name kind := by
  cases kind <;> rfl

/-- **The name can be given to a net** of the chip: it is an identifier, none of its signals is the
name of an instance, and it clashes with the name of no net. -/
structure Admits (c : Chip) (name : String) : Prop where
  valid : IsIdentifier name
  instances : ∀ s ∈ handshake name, s ∉ c.instanceNames
  nets : ∀ m ∈ c.netNames, ¬ NamesClash name m

/-- The table decides as the nets and instances do, because it holds what they use. -/
theorem Reachable.admits_iff {c : Chip} (h : c.Reachable) {name : String} :
    c.Admits name ↔ IsIdentifier name ∧ ∀ s ∈ handshake name, s ∉ c.names.toList := by
  constructor
  · rintro ⟨hvalid, hinstances, hnets⟩
    refine ⟨hvalid, fun s hs hmem => ?_⟩
    -- a taken signal belongs to a net or is the name of an instance
    rcases h.mem_names_iff.1 hmem with ⟨m, hm, hsm⟩ | hinstance
    · exact hnets m hm (namesClash_iff.2 ⟨s, hs, hsm⟩)
    · exact hinstances s hs hinstance
  · rintro ⟨hvalid, hfree⟩
    refine ⟨hvalid, fun s hs hinstance => ?_, fun m hm hclash => ?_⟩
    · exact hfree s hs (h.mem_names_iff.2 (Or.inr hinstance))
    · obtain ⟨s, hs, hsm⟩ := namesClash_iff.1 hclash
      exact hfree s hs (h.mem_names_iff.2 (Or.inl ⟨m, hm, hsm⟩))

/-- **Why a name is refused.** A name that is no identifier is refused as such, whether or not it
clashes; any other for the first of its signals that the module uses already. -/
inductive RefusesName (c : Chip) (name : String) : NetlistError → Prop where
  | invalid {flaw : IdentifierFlaw} (hflaw : Identifier.flaw? name = some flaw) :
      RefusesName c name (.invalidName name flaw.reason)
  | taken {before after : List String} {s : String} (valid : IsIdentifier name)
      (split : handshake name = before ++ s :: after) (unused : ∀ t ∈ before, ¬ c.Uses t)
      (used : c.Uses s) : RefusesName c name (.duplicateName name s)

/-- The name is checked before the signals are looked up. -/
theorem createNet_eq_of_invalid {c : Chip} {name : String} (kind : NetKind) {e : NetlistError}
    (h : checkIdentifier name = .error e) : c.createNet name kind = c.refuse e := by
  rw [createNet, h]

/-- A name that is an identifier is refused for the first of its signals that is taken. -/
theorem createNet_eq_of_clash {c : Chip} {name s : String} (kind : NetKind)
    (hvalid : IsIdentifier name) (h : c.clash? name = some s) :
    c.createNet name kind = c.refuse (.duplicateName name s) := by
  rw [createNet, checkIdentifier_eq_ok_iff.2 hvalid]
  simp only [h]

/-- The signal that an error names is the first that is used. -/
theorem Reachable.clash?_eq_some_iff {c : Chip} (h : c.Reachable) {name s : String} :
    c.clash? name = some s ↔ ∃ before after, handshake name = before ++ s :: after ∧
      (∀ t ∈ before, ¬ c.Uses t) ∧ c.Uses s := by
  have hunused : ∀ t, (!c.names.isTaken t) = true ↔ ¬ c.Uses t := by
    intro t
    rw [Bool.not_eq_true', Bool.eq_false_iff, Ne, NameTable.isTaken_iff, h.mem_names_iff]
  rw [clash?, List.find?_eq_some_iff_append, NameTable.isTaken_iff, h.mem_names_iff]
  simp only [hunused]
  constructor
  · rintro ⟨hused, before, after, hsplit, hbefore⟩
    exact ⟨before, after, hsplit, hbefore, hused⟩
  · rintro ⟨before, after, hsplit, hbefore, hused⟩
    exact ⟨hused, before, after, hsplit, hbefore⟩

/-- The error of a refused net says why its name is refused, and nothing else is ever reported. -/
theorem Reachable.createNet_eq_error_iff {c : Chip} (h : c.Reachable) {name : String}
    {kind : NetKind} {e : NetlistError} :
    (c.createNet name kind).outcome = .error e ↔ c.RefusesName name e := by
  constructor
  · intro he
    cases hname : checkIdentifier name with
    | error e' =>
      rw [createNet_eq_of_invalid kind hname] at he
      obtain rfl : e' = e := Except.error.inj he
      obtain ⟨flaw, hflaw, rfl⟩ := checkIdentifier_eq_error_iff.1 hname
      exact .invalid hflaw
    | ok _ =>
      have hvalid := checkIdentifier_eq_ok_iff.1 hname
      -- without a clash the call would have succeeded
      cases hclash : c.clash? name with
      | none =>
        obtain ⟨id, hok⟩ := createNet_ok_iff.2 ⟨hvalid, clash?_eq_none_iff.1 hclash⟩
        rw [he] at hok
        cases hok
      | some s =>
        rw [createNet_eq_of_clash kind hvalid hclash] at he
        obtain rfl : NetlistError.duplicateName name s = e := Except.error.inj he
        obtain ⟨before, after, hsplit, hunused, hused⟩ := h.clash?_eq_some_iff.1 hclash
        exact .taken hvalid hsplit hunused hused
  · intro he
    cases he with
    | invalid hflaw =>
      rw [createNet_eq_of_invalid kind (checkIdentifier_eq_error_iff.2 ⟨_, hflaw, rfl⟩)]
      rfl
    | taken hvalid hsplit hunused hused =>
      rw [createNet_eq_of_clash kind hvalid (h.clash?_eq_some_iff.2 ⟨_, _, hsplit, hunused, hused⟩)]
      rfl

/-! ### What is added -/

/-- **One net is added, and nothing else changes.** The net has the next number and is open at every
end that lies inside. -/
structure AddsNet (c : Chip) (base : String) (kind : NetKind) (c' : Chip) : Prop where
  name : c'.name = c.name
  instances : c'.instances = c.instances
  names : c'.names.toList = c.names.toList ++ handshake base
  nets : ∃ n, c'.nets.toList = c.nets.toList ++ [n] ∧ n.id = ⟨c.netCount⟩ ∧ n.kind = kind ∧
    c'.nameOf n = base ∧ ∀ s, kind.outerEnd? ≠ some s → n.endpoint s = none

/-- The ends of a new net are open, but for the one outside. -/
theorem endpoint_fresh_eq_none (id : NetId) (ident : Ident) {kind : NetKind} {s : Slot}
    (h : kind.outerEnd? ≠ some s) : (Net.fresh id ident kind).endpoint s = none := by
  rw [endpoint_eq_none_iff_free, Net.kind_fresh]
  exact ⟨h, fun i => endpoint_fresh_ne id ident kind s i⟩

/-- A net whose three signals are new adds these three names to the table, and itself to the nets.
-/
theorem addsNet_withNet (c : Chip) {name : String} (kind : NetKind)
    (hfree : ∀ s ∈ handshake name, s ∉ c.names.toList) :
    c.AddsNet name kind (c.withNet name kind) where
  name := rfl
  instances := rfl
  names := NameTable.toList_claimAll_of_free (nodup_handshake name) hfree
  nets := by
    refine ⟨.fresh ⟨c.nets.next⟩ (c.names.claimedId name) kind, rfl, rfl, Net.kind_fresh .., ?_, ?_⟩
    · -- the number of the name was handed out before the other two signals were claimed
      change (c.names.claimAll (handshake name)).resolve (c.names.claimedId name) = name
      rw [NameTable.resolve_of_prefix (prefix_claimAll_handshake ..)
        (c.names.claimedId_lt_size name), NameTable.resolve_claimedId]
    · intro s hs
      exact endpoint_fresh_eq_none _ _ hs

/-! ### The law -/

/-- A net can be created under the names that the chip admits. -/
theorem Reachable.createNet_ok_iff_admits {c : Chip} (h : c.Reachable) {name : String}
    {kind : NetKind} : (∃ id, (c.createNet name kind).outcome = .ok id) ↔ c.Admits name :=
  createNet_ok_iff.trans h.admits_iff.symm

/-- Once a net has been added, a name is admitted if it was and does not clash with the new one. -/
theorem admits_withNet {c : Chip} (h : c.Named) (name other : String) (kind : NetKind) :
    (c.withNet name kind).Admits other ↔ c.Admits other ∧ ¬ NamesClash other name := by
  constructor
  · rintro ⟨hvalid, hinstances, hnets⟩
    rw [instanceNames_withNet h] at hinstances
    simp only [netNames_withNet h, List.forall_mem_append, List.forall_mem_singleton] at hnets
    exact ⟨⟨hvalid, hinstances, hnets.1⟩, hnets.2⟩
  · rintro ⟨⟨hvalid, hinstances, hnets⟩, hnew⟩
    refine ⟨hvalid, ?_, ?_⟩
    · rwa [instanceNames_withNet h]
    · rw [netNames_withNet h, List.forall_mem_append, List.forall_mem_singleton]
      exact ⟨hnets, hnew⟩

/-- Two nets can be created one after the other when both names are admitted and do not clash. -/
theorem Reachable.createNet_createNet_ok_iff {c : Chip} (h : c.Reachable) (name other : String)
    (kind kind' : NetKind) :
    ((∃ id, (c.createNet name kind).outcome = .ok id) ∧
      ∃ id, ((c.createNet name kind).chip.createNet other kind').outcome = .ok id) ↔
      (c.Admits name ∧ c.Admits other) ∧ ¬ NamesClash other name := by
  rw [h.createNet_ok_iff_admits, and_assoc]
  refine and_congr_right fun hname => ?_
  obtain ⟨id, hok⟩ : ∃ id, (c.createNet name kind).outcome = .ok id :=
    h.createNet_ok_iff_admits.2 hname
  have hchip := (createNet_of_ok hok).1
  -- the second call is made of a chip that calls have led to as well
  have hreachable : (c.withNet name kind).Reachable := by
    rw [← hchip]
    cases kind with
    | internal => exact h.call (.createInternal name)
    | boundaryInput => exact h.call (.createBoundaryInput name)
    | boundaryOutput => exact h.call (.createBoundaryOutput name)
  rw [hchip, hreachable.createNet_ok_iff_admits, admits_withNet h.named]

/-- **The exact outcome of adding a net under a chosen name** to a reachable chip, whichever of its
three kinds is asked for. The call succeeds exactly when the chip admits the name, and then adds one
net and nothing else. Otherwise it fails with the one reason that applies. Two names that can be
given in one order can be given in the other. -/
theorem Reachable.createNamed_exact {c : Chip} (h : c.Reachable) (name : String) (kind : NetKind) :
    ((∃ id, (c.createNamed name kind).outcome = .ok id) ↔ c.Admits name) ∧
      (∀ id, (c.createNamed name kind).outcome = .ok id → id = ⟨c.netCount⟩ ∧
        c.AddsNet name kind (c.createNamed name kind).chip) ∧
      (∀ e, (c.createNamed name kind).outcome = .error e ↔ c.RefusesName name e) ∧
      ∀ other kind',
        (((∃ id, (c.createNamed name kind).outcome = .ok id) ∧
            ∃ id, ((c.createNamed name kind).chip.createNamed other kind').outcome = .ok id) ↔
          (∃ id, (c.createNamed other kind').outcome = .ok id) ∧
            ∃ id, ((c.createNamed other kind').chip.createNamed name kind).outcome = .ok id) := by
  simp only [createNamed_eq]
  refine ⟨h.createNet_ok_iff_admits, fun id hok => ?_, fun e => h.createNet_eq_error_iff, ?_⟩
  · obtain ⟨hchip, hvalid, hfree⟩ := createNet_of_ok hok
    have hclash : c.clash? name = none := clash?_eq_none_iff.2 hfree
    -- the number is that of the call, whatever the kind
    have hid : (c.createNet name kind).outcome = .ok ⟨c.netCount⟩ := by
      rw [createNet, checkIdentifier_eq_ok_iff.2 hvalid]
      simp only [hclash]
      rfl
    refine ⟨Except.ok.inj (hok.symm.trans hid), ?_⟩
    rw [hchip]
    exact c.addsNet_withNet kind hfree
  · intro other kind'
    rw [h.createNet_createNet_ok_iff, h.createNet_createNet_ok_iff]
    -- both orders come down to the same condition
    have hsymm : NamesClash other name ↔ NamesClash name other := ⟨.symm, .symm⟩
    rw [hsymm, and_comm (a := c.Admits name)]

/-- The loop has nets `a`, `z` and `wire_2` and an instance `inst_0_Mixer`. It admits neither
`z_stb`, although that is the name of no net, nor the name of the instance; a reserved word is
refused as such; and `inst_0` is added as its fourth net. -/
theorem createNamed_exact_loopChip : loopChip.Reachable ∧ ¬ loopChip.Admits "z_stb" ∧
    loopChip.RefusesName "z_stb" (.duplicateName "z_stb" "z_stb") ∧
    loopChip.RefusesName "wire" (.invalidName "wire" "is a Verilog keyword") ∧
    ¬ loopChip.Admits "inst_0_Mixer" ∧
    loopChip.AddsNet "inst_0" .boundaryInput
      (loopChip.createNamed "inst_0" .boundaryInput).chip := by
  obtain ⟨hstrobe, -, hrefused, -⟩ :=
    Reachable.createNamed_exact loopChip_reachable "z_stb" .internal
  obtain ⟨-, -, hkeyword, -⟩ := Reachable.createNamed_exact loopChip_reachable "wire" .internal
  obtain ⟨hinstance, -, -, -⟩ :=
    Reachable.createNamed_exact loopChip_reachable "inst_0_Mixer" .boundaryOutput
  obtain ⟨-, hadded, -, -⟩ :=
    Reachable.createNamed_exact loopChip_reachable "inst_0" .boundaryInput
  refine ⟨loopChip_reachable, ?_, (hrefused _).1 rfl, (hkeyword _).1 rfl, ?_, (hadded ⟨3⟩ rfl).2⟩
  · intro hadmits
    obtain ⟨id, hok⟩ := hstrobe.2 hadmits
    cases hok
  · intro hadmits
    obtain ⟨id, hok⟩ := hinstance.2 hadmits
    cases hok

end Chip

end Netlist
