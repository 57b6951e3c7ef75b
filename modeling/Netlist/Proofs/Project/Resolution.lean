import Netlist.Proofs.Chip.NetIndex
import Netlist.Proofs.Project.Plans

/-!
# What the names in a manifest stand for

A declared instance gives its nets by name, and the names are looked up in the chip as it is at that
moment. By then other entries have been rejected, names have been taken by signals, and instances
have been named with suffixes. None of this shows: a name stands for the net that an entry of that
name has created, from the first declared instance to the last (`resolvesNets`).

The reason is that a look-up reads nothing but the row of the names of the nets
(`Legible.findNet?_eq_some_iff_getElem?`). A net that is created goes to the end of the row, so the
row tells which entry has created what (`getElem?_netNames_createNets`), and instances leave it
alone (`hasNets_addInstances`). Nothing is assumed of the number of names here: it makes no
difference whether instances have found names of their own.
-/

namespace Netlist

namespace Chip

/-- A name finds the net that stands where the name is in the row of names. -/
theorem Legible.findNet?_eq_some_iff_getElem? {c : Chip} (h : c.Legible) {name : String}
    {id : NetId} : c.findNet? name = some id ↔ c.netNames[id.index]? = some name := by
  rw [h.findNet?_eq_some_iff, netNames, List.getElem?_map, Option.map_eq_some_iff]
  rfl

/-- A new net stands at the end of the row of names. -/
theorem getElem?_netNames_withNet {c : Chip} (h : c.Named) {name : String} (kind : NetKind)
    {s : String} {id : NetId} : (c.withNet name kind).netNames[id.index]? = some s ↔
      c.netNames[id.index]? = some s ∨ name = s ∧ ⟨c.nets.next⟩ = id := by
  have hlength : c.netNames.length = c.nets.next := List.length_map ..
  rw [netNames_withNet h]
  -- the row grows as an arena does
  refine (Arena.get?_push_eq_some (a := ⟨c.netNames⟩)).trans (or_comm.trans (or_congr_right ?_))
  rw [Arena.size, hlength, NetId.ext_iff]
  exact and_comm.trans (and_congr eq_comm eq_comm)

/-! ### Creating the nets of a list -/

/-- Creates nets one after the other. Those that are refused are left out. -/
def createNets (c : Chip) (nets : List (String × NetKind)) : Chip :=
  nets.foldl (fun c net => (c.createNet net.1 net.2).chip) c

/-- **An entry of the list creates the net**: when its turn comes, it is answered with this
number. -/
def Creates (c : Chip) (nets : List (String × NetKind)) (name : String) (id : NetId) : Prop :=
  ∃ before kind after, nets = before ++ (name, kind) :: after ∧
    ((c.createNets before).createNet name kind).outcome = .ok id

theorem createNets_concat (c : Chip) (nets : List (String × NetKind)) (net : String × NetKind) :
    c.createNets (nets ++ [net]) = ((c.createNets nets).createNet net.1 net.2).chip :=
  List.foldl_concat ..

/-- The last entry creates a net, or an entry in front of it does. -/
theorem creates_concat_iff {c : Chip} {nets : List (String × NetKind)} {net : String × NetKind}
    {name : String} {id : NetId} : c.Creates (nets ++ [net]) name id ↔ c.Creates nets name id ∨
      net.1 = name ∧ ((c.createNets nets).createNet net.1 net.2).outcome = .ok id := by
  constructor
  · rintro ⟨before, kind, after, hnets, hid⟩
    rcases List.eq_nil_or_concat after with rfl | ⟨after, last, rfl⟩
    · obtain ⟨rfl, hlast⟩ := List.append_inj' hnets rfl
      obtain rfl : net = (name, kind) := List.singleton_inj.1 hlast
      exact Or.inr ⟨rfl, hid⟩
    · rw [List.concat_eq_append, ← List.cons_append, ← List.append_assoc] at hnets
      obtain ⟨rfl, -⟩ := List.append_inj' hnets rfl
      exact Or.inl ⟨before, kind, after, rfl, hid⟩
  · rintro (⟨before, kind, after, rfl, hid⟩ | ⟨rfl, hid⟩)
    · exact ⟨before, kind, after ++ [net], by simp, hid⟩
    · exact ⟨nets, net.2, [], rfl, hid⟩

end Chip

namespace Project

theorem hasOnlyNets_createNets {c : Chip} (h : HasOnlyNets c) (nets : List (String × NetKind)) :
    HasOnlyNets (c.createNets nets) := by
  -- on the last entry, which is tried on what the others have left
  induction nets using List.reverseRecOn with
  | nil => exact h
  | append_singleton nets net ih =>
    rw [Chip.createNets_concat]
    cases hnet : ((c.createNets nets).createNet net.1 net.2).outcome with
    | error e =>
      rw [(Chip.createNet_allOrNothing ..).chip_eq hnet]
      exact ih
    | ok id =>
      obtain ⟨hchip, hname, hfree⟩ := Chip.createNet_of_ok hnet
      rw [hchip]
      exact ih.withNet hname hfree

/-- **After the nets of a list**, the row has the name of an entry where the entry has created its
net. -/
theorem getElem?_netNames_createNets {name : String} {c₀ : Chip} (hnew : Chip.new name = .ok c₀)
    (nets : List (String × NetKind)) (s : String) (id : NetId) :
    (c₀.createNets nets).netNames[id.index]? = some s ↔ c₀.Creates nets s id := by
  have hstart : HasOnlyNets c₀ := by
    obtain ⟨hname, rfl⟩ := Chip.new_eq_ok hnew
    exact .empty hname
  -- on the last entry: it adds its name at the end of the row, or nothing
  induction nets using List.reverseRecOn with
  | nil =>
    obtain ⟨-, rfl⟩ := Chip.new_eq_ok hnew
    refine ⟨(nomatch ·), fun h => ?_⟩
    obtain ⟨before, kind, after, hnets, -⟩ := h
    exact absurd hnets (List.append_ne_nil_of_right_ne_nil _ (List.cons_ne_nil _ _)).symm
  | append_singleton nets net ih =>
    rw [Chip.createNets_concat, Chip.creates_concat_iff]
    refine Iff.trans ?_ (or_congr_left ih)
    cases hnet : ((c₀.createNets nets).createNet net.1 net.2).outcome with
    | error e =>
      -- what is refused leaves the row alone
      rw [(Chip.createNet_allOrNothing ..).chip_eq hnet]
      simp
    | ok id' =>
      have hnamed := (hasOnlyNets_createNets hstart nets).named
      obtain ⟨hchip, -⟩ := Chip.createNet_of_ok hnet
      obtain rfl := Chip.eq_next_of_createNet hnet
      rw [hchip, Chip.getElem?_netNames_withNet hnamed, Except.ok.injEq]

/-! ### Adding instances -/

theorem HasNets.netNames_eq {nets : List (String × NetKind)} {c : Chip} (h : HasNets nets c) :
    c.netNames = nets.map Prod.fst := by
  rw [← h.nets_eq, Chip.design, List.map_map]
  rfl

/-- Declared instances leave the nets alone, whether they are added or not. -/
theorem hasNets_addInstances (library : Library) {nets : List (String × NetKind)} (index : Nat)
    (ps : List InstancePlan) {b : Build} (h : HasNets nets b.chip) :
    HasNets nets (Build.addInstances library index ps b).chip := by
  -- each declaration is accepted or rejected, and neither touches the nets
  induction ps generalizing index b with
  | nil => exact h
  | cons p ps ih =>
    refine ih (index + 1) ?_
    have htried := Build.tried_addInstance library index b p
    cases hp : tryInstance library b.chip p with
    | none =>
      rw [hp] at htried
      rw [htried.of_none.1]
      exact h
    | some c =>
      rw [hp] at htried
      rw [htried.of_some.1]
      exact ((carriesOut_instances library nets).of_some h hp).1

/-! ### Looking names up for an instance -/

/-- Adding nets creates them, apart from the reports. -/
theorem chip_addNets (kind : NetKind) (origin : String) (names : List String) (b : Build) :
    (Build.addNets kind origin names b).chip = b.chip.createNets (names.map (·, kind)) := by
  induction names generalizing b with
  | nil => rfl
  | cons name names ih => exact ih _

/-- The build after the nets of a plan and the first of its instances. -/
def buildUntil (library : Library) (plan : ChipPlan) (done : List InstancePlan) (c : Chip) :
    Build :=
  buildFrom library { plan with instances := done } c

/-- Declared instances can be added in two parts. -/
theorem addInstances_append (library : Library) (index : Nat) (ps ps' : List InstancePlan)
    (b : Build) : Build.addInstances library index (ps ++ ps') b = Build.addInstances library
      (index + ps.length) ps' (Build.addInstances library index ps b) := by
  -- on the first part; the count goes on where it has ended
  induction ps generalizing index b with
  | nil => rfl
  | cons p ps ih =>
    rw [List.cons_append, Build.addInstances, ih, List.length_cons, Nat.add_right_comm,
      Nat.add_assoc]
    rfl

theorem buildFrom_eq_addInstances (library : Library) {plan : ChipPlan}
    {done rest : List InstancePlan} (hsplit : plan.instances = done ++ rest) (c : Chip) :
    buildFrom library plan c =
      Build.addInstances library done.length rest (buildUntil library plan done c) := by
  rw [buildFrom, hsplit, addInstances_append, Nat.zero_add]
  rfl

/-- Before the first instance there are the nets of the plan. -/
theorem chip_buildUntil_nil (library : Library) (plan : ChipPlan) (c : Chip) :
    (buildUntil library plan [] c).chip = c.createNets plan.nets := by
  change (Build.addNets _ _ _ (Build.addNets _ _ _ (Build.addNets _ _ _ _))).chip = _
  rw [chip_addNets, chip_addNets, chip_addNets, ChipPlan.nets]
  simp only [Chip.createNets, List.foldl_append]

/-- **The names in a manifest stand for the nets made from it**, as they are looked up behind the
first of its instances. -/
structure ResolvesNets (m : Manifest) (library : Library) (c₀ : Chip)
    (done rest : List InstancePlan) : Prop where
  /-- The chip is finished from here with the other instances. -/
  chip : (buildChip m library).chip = some
    (Build.addInstances library done.length rest (buildUntil library m.chip done c₀)).chip
  diagnostics : (buildChip m library).diagnostics =
    (Build.addInstances library done.length rest (buildUntil library m.chip done c₀)).diagnostics
  /-- What is found is what an entry of this name has created. -/
  findNet?_eq_some_iff : ∀ name id, (buildUntil library m.chip done c₀).chip.findNet? name =
    some id ↔ c₀.Creates m.chip.nets name id

/-- At every declared instance, a name stands for what an entry of this name has created. -/
theorem resolvesNets {m : Manifest} {c₀ : Chip} (hnew : Chip.new m.project.name = .ok c₀)
    (library : Library) {done rest : List InstancePlan}
    (hsplit : m.chip.instances = done ++ rest) : ResolvesNets m library c₀ done rest := by
  obtain ⟨hname, hc₀⟩ := Chip.new_eq_ok hnew
  obtain ⟨hchip, hdiagnostics⟩ := buildChip_of_isIdentifier library hname
  rw [← hc₀, buildFrom_eq_addInstances library hsplit] at hchip hdiagnostics
  refine ⟨hchip, hdiagnostics, fun s id => ?_⟩
  have hnets : HasNets (c₀.createNets m.chip.nets).design.nets (c₀.createNets m.chip.nets) :=
    (hasOnlyNets_createNets (hc₀ ▸ .empty hname) m.chip.nets).hasNets
  have hdone : HasNets (c₀.createNets m.chip.nets).design.nets
      (buildUntil library m.chip done c₀).chip :=
    hasNets_addInstances library 0 done (chip_buildUntil_nil library m.chip c₀ ▸ hnets)
  -- the row of names is still that of the nets alone
  have hrow : (buildUntil library m.chip done c₀).chip.netNames =
      (c₀.createNets m.chip.nets).netNames := hdone.netNames_eq.trans hnets.netNames_eq.symm
  rw [← getElem?_netNames_createNets hnew, ← hrow]
  exact hdone.legible.findNet?_eq_some_iff_getElem?

/-- **Look-up is the inverse of naming**, and names in a manifest stand for what they have created.

From an empty chip, after any calls, a name finds the net that goes by it, whether the nets are gone
through or an index of them is asked; nothing else is found, be it a strobe, an acknowledge, the
name of an instance or no name at all. And when a manifest is carried out, whatever is rejected on
the way, every declared instance finds under a name the net that was created from that name. -/
theorem findNet?_inverts_netName {name : String} {c₀ : Chip} (hnew : Chip.new name = .ok c₀) :
    (∀ calls, (c₀.run calls).names.size < idLimit → (c₀.run calls).FindsByName ∧
      ∀ s, (c₀.run calls).findNet? s = ((c₀.run calls).names.get? s).bind fun ident =>
        (c₀.indexAfter [] calls).lookup ident) ∧
    ∀ m : Manifest, m.project.name = name → ∀ library done rest,
      m.chip.instances = done ++ rest → ResolvesNets m library c₀ done rest := by
  refine ⟨fun calls hfew => ?_, ?_⟩
  · have hreachable : (c₀.run calls).Reachable := (Chip.Reachable.new hnew).run calls
    have hseparate := hreachable.separate hfew
    have hlegible := hseparate.legible hreachable.named hreachable.wired
    refine ⟨hseparate.findsByName hlegible, fun s => ?_⟩
    -- the chip is new, so its index holds what the calls have entered
    have hindex : c₀.indexAfter [] calls = (c₀.run calls).netEntries.reverse := by
      obtain ⟨-, rfl⟩ := Chip.new_eq_ok hnew
      exact Chip.indexAfter_netEntries _ calls
    rw [hindex]
    exact hlegible.findNet?_eq_lookup s
  · rintro m rfl library done rest hsplit
    exact resolvesNets hnew library hsplit

/-- The crowded calls, on a chip that is named as the faulty manifest says. -/
def crowdedChip : Chip :=
  Chip.run ⟨"broken", .empty, .empty, .empty⟩ Chip.crowdedCalls

/-- On the crowded chip an automatic name finds its net, and the strobe of another net and the name
of the instance find nothing. The last instance of the faulty manifest finds the wire, which has
become the third net although it is the sixth name. -/
theorem findNet?_inverts_netName_faulty :
    Chip.new "broken" = .ok ⟨"broken", .empty, .empty, .empty⟩ ∧
      crowdedChip.names.size < idLimit ∧ crowdedChip.findNet? "wire_2_1" = some ⟨2⟩ ∧
      crowdedChip.findNet? "wire_2_ack_stb" = none ∧
      crowdedChip.findNet? "inst_0_Mixer_1" = none ∧
      (buildUntil adderLibrary faultyManifest.chip (faultyManifest.chip.instances.take 3)
        ⟨"broken", .empty, .empty, .empty⟩).chip.findNet? "w" = some ⟨2⟩ := by
  have hnew : Chip.new "broken" = .ok ⟨"broken", .empty, .empty, .empty⟩ := rfl
  have hfew : crowdedChip.names.size < idLimit := by decide
  have hwire : crowdedChip.netName ⟨1⟩ = "wire_2_ack" := by decide
  have hmixer : crowdedChip.instanceName ⟨0⟩ = "inst_0_Mixer_1" := by decide
  obtain ⟨hruns, hmanifests⟩ := findNet?_inverts_netName hnew
  have hfinds : crowdedChip.FindsByName := (hruns Chip.crowdedCalls hfew).1
  have hresolves := hmanifests faultyManifest rfl adderLibrary
    (faultyManifest.chip.instances.take 3) (faultyManifest.chip.instances.drop 3)
    (List.take_append_drop 3 _).symm
  have hstrobe := hfinds.findNet?_strobe ⟨1⟩ (by decide)
  rw [hwire] at hstrobe
  have hinstance := hfinds.findNet?_instanceName ⟨0⟩ (by decide)
  rw [hmixer] at hinstance
  refine ⟨hnew, hfew, ?_, hstrobe, hinstance, ?_⟩
  · exact (hfinds.findNet?_eq_some_iff "wire_2_1" ⟨2⟩).2 ⟨by decide, by decide⟩
  · exact (hresolves.findNet?_eq_some_iff "w" ⟨2⟩).2
      ⟨faultyManifest.chip.nets.take 5, .internal, [], rfl, by decide⟩

end Project

end Netlist
