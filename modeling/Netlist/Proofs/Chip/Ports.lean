import Mathlib.Data.List.Nodup
import Mathlib.Data.List.Perm.Basic
import Netlist.Chip.Instances

/-!
# Nets for the ports of a component

Connections by name are sorted into the order of the ports by `placePorts`, one after the other, and
this can go wrong in many ways. `placePorts_eq_ok_iff` says when it succeeds and with what: no two
ports of the component share a name, and the connections are the ports with their nets, in any
order. The relation is `Component.Connects`. It does not say how a net is given, so it can be used
of numbers of nets and of names of nets alike, and it is kept by any change of the one into the
other (`Component.Connects.map`).

The proof follows the map of given nets. `PortMap.at?` reads it at one position, and
`PortMap.Connected` says what a list of connections does to it: each one fills a position of its
own that was empty, and no other position changes.
-/

namespace Netlist

/-! ### Finding ports -/

namespace Component

variable {d : Component}

/-- The port that is found is the one at the position. -/
theorem eq_of_findPort? {port port' : String} {dir : PortDirection} {i : Nat}
    (h : d.findPort? port = some (dir, i)) (h' : (d.ports dir)[i]? = some port') : port = port' :=
  Option.some.inj ((getElem?_ports_of_findPort? h).symm.trans h')

/-- Ports have different names exactly when each is found at its own position. -/
theorem nodup_allPorts_iff : d.allPorts.Nodup ↔
    ∀ dir i port, (d.ports dir)[i]? = some port → d.findPort? port = some (dir, i) := by
  constructor
  · intro h dir i port hport
    obtain ⟨hin, hout, hdisjoint⟩ := List.nodup_append.1 h
    unfold findPort?
    cases dir with
    | input => rw [findIdx?_eq_some_of_nodup hin hport]
    | output =>
      -- the inputs are searched first, and have no port of this name
      have hnone : d.inputPorts.findIdx? (· == port) = none := by
        refine List.findIdx?_eq_none_iff.2 fun x hx => ?_
        rw [beq_eq_false_iff_ne]
        exact hdisjoint x hx port (List.mem_of_getElem? hport)
      rw [hnone, findIdx?_eq_some_of_nodup hout hport]
      rfl
  · intro h
    -- on one side, a name at two positions would be found at both
    have hside : ∀ dir, (d.ports dir).Nodup := by
      intro dir
      refine List.nodup_iff_getElem?_ne_getElem?.2 fun i j hij hj heq => ?_
      have hport := List.getElem?_eq_getElem hj
      have hsame := (h dir i _ (heq.trans hport)).symm.trans (h dir j _ hport)
      simp only [Option.some.injEq, Prod.mk.injEq, true_and] at hsame
      omega
    refine List.nodup_append.2 ⟨hside .input, hside .output, ?_⟩
    rintro x hx y hy rfl
    -- a name on both sides would be found twice
    obtain ⟨i, hi⟩ := List.mem_iff_getElem?.1 hx
    obtain ⟨j, hj⟩ := List.mem_iff_getElem?.1 hy
    have hsame := (h .input i x hi).symm.trans (h .output j x hj)
    simp at hsame

/-! ### Connections that fit -/

/-- The items for the ports of one direction. -/
def side {α : Type} (inputs outputs : List α) : PortDirection → List α
  | .input => inputs
  | .output => outputs

/-- **The connections name every port once**, and no two ports share a name: in the order of the
ports, the items connected are `inputs` and `outputs`. -/
structure Connects {α : Type} (d : Component) (connections : List (String × α))
    (inputs outputs : List α) : Prop where
  nodup : d.allPorts.Nodup
  length_eq : ∀ dir, (side inputs outputs dir).length = (d.ports dir).length
  perm : connections.Perm (d.allPorts.zip (inputs ++ outputs))

variable {α β : Type} {connections : List (String × α)} {inputs outputs : List α}

/-- The items may be replaced by others, each by one that depends on it alone. -/
theorem Connects.map (h : d.Connects connections inputs outputs) (f : α → β) :
    d.Connects (connections.map fun x => (x.1, f x.2)) (inputs.map f) (outputs.map f) where
  nodup := h.nodup
  length_eq dir := by
    have hlength := h.length_eq dir
    cases dir <;> exact (List.length_map f).trans hlength
  perm := by
    have hperm := h.perm.map fun x : String × α => (x.1, f x.2)
    rw [← List.map_append, List.zip_map_right]
    exact hperm

/-- The pairs of ports and items, position by position. -/
theorem mem_zip_allPorts_iff
    (hlength : ∀ dir, (side inputs outputs dir).length = (d.ports dir).length) {port : String}
    {x : α} : (port, x) ∈ d.allPorts.zip (inputs ++ outputs) ↔
      ∃ (dir : PortDirection) (i : Nat),
        (d.ports dir)[i]? = some port ∧ (side inputs outputs dir)[i]? = some x := by
  have hinputs : d.inputPorts.length = inputs.length := (hlength .input).symm
  rw [allPorts, List.zip_append hinputs, List.mem_append]
  constructor
  · rintro (h | h)
    · obtain ⟨i, hi⟩ := List.mem_iff_getElem?.1 h
      exact ⟨.input, i, List.getElem?_zip_eq_some.1 hi⟩
    · obtain ⟨i, hi⟩ := List.mem_iff_getElem?.1 h
      exact ⟨.output, i, List.getElem?_zip_eq_some.1 hi⟩
  · rintro ⟨dir, i, hi⟩
    cases dir with
    | input => exact Or.inl (List.mem_iff_getElem?.2 ⟨i, List.getElem?_zip_eq_some.2 hi⟩)
    | output => exact Or.inr (List.mem_iff_getElem?.2 ⟨i, List.getElem?_zip_eq_some.2 hi⟩)

/-- Nothing is lost when the ports are paired with as many items. -/
theorem map_fst_zip_allPorts
    (hlength : ∀ dir, (side inputs outputs dir).length = (d.ports dir).length) :
    (d.allPorts.zip (inputs ++ outputs)).map Prod.fst = d.allPorts := by
  refine List.map_fst_zip ?_
  rw [allPorts, List.length_append, List.length_append]
  exact Nat.add_le_add (Nat.le_of_eq (hlength .input).symm) (Nat.le_of_eq (hlength .output).symm)

/-- The ports that the connections name are the declared ones. -/
theorem Connects.map_fst (h : d.Connects connections inputs outputs) :
    (connections.map Prod.fst).Perm d.allPorts := by
  have hperm := h.perm.map Prod.fst
  rwa [map_fst_zip_allPorts h.length_eq] at hperm

/-- A connection is a port with the item at its position. -/
theorem Connects.mem_iff (h : d.Connects connections inputs outputs) {port : String} {x : α} :
    (port, x) ∈ connections ↔ ∃ (dir : PortDirection) (i : Nat),
      (d.ports dir)[i]? = some port ∧ (side inputs outputs dir)[i]? = some x :=
  h.perm.mem_iff.trans (mem_zip_allPorts_iff h.length_eq)

/-- Every connection names a port that is found. -/
theorem Connects.exists_findPort? (h : d.Connects connections inputs outputs) {x : String × α}
    (hx : x ∈ connections) : ∃ position, d.findPort? x.1 = some position := by
  obtain ⟨dir, i, hport, -⟩ := h.mem_iff.1 hx
  exact ⟨(dir, i), nodup_allPorts_iff.1 h.nodup dir i x.1 hport⟩

/-- No two connections are for the same port. -/
theorem Connects.nodup_findPort? (h : d.Connects connections inputs outputs) :
    (connections.map fun x => d.findPort? x.1).Nodup := by
  have hports : (connections.map Prod.fst).Nodup := h.map_fst.nodup_iff.2 h.nodup
  refine List.Nodup.map_on (fun x hx y hy hxy => ?_) (List.Nodup.of_map _ hports)
  -- two connections that find one position name the port there
  obtain ⟨⟨dir, i⟩, hposition⟩ := h.exists_findPort? hx
  have hport : x.1 = y.1 :=
    eq_of_findPort? hposition (getElem?_ports_of_findPort? (hxy.symm.trans hposition))
  exact List.inj_on_of_nodup_map hports hx hy hport

/-- The item at a position is the one connected to the name of the port. -/
theorem Connects.getElem?_side_iff (h : d.Connects connections inputs outputs)
    {dir : PortDirection} {k : Nat} {x : α} : (side inputs outputs dir)[k]? = some x ↔
      ∃ port, (d.ports dir)[k]? = some port ∧ (port, x) ∈ connections := by
  constructor
  · intro hx
    -- there are as many items as ports, so a port stands at this position
    have hk : k < (d.ports dir).length :=
      h.length_eq dir ▸ (List.getElem?_eq_some_iff.1 hx).1
    have hport := List.getElem?_eq_getElem hk
    exact ⟨_, hport, h.mem_iff.2 ⟨dir, k, hport, hx⟩⟩
  · rintro ⟨port, hport, hmem⟩
    obtain ⟨dir', k', hport', hx⟩ := h.mem_iff.1 hmem
    -- the port is found at one position only
    have hposition := nodup_allPorts_iff.1 h.nodup dir k port hport
    have hposition' := nodup_allPorts_iff.1 h.nodup dir' k' port hport'
    obtain ⟨rfl, rfl⟩ := Prod.mk.inj (Option.some.inj (hposition.symm.trans hposition'))
    exact hx

end Component

namespace Chip

open Component (side Connects)

/-! ### The map of given nets -/

namespace PortMap

variable {d : Component} {m m' : PortMap}

/-- The net given for the port at a position. -/
def at? (m : PortMap) (position : PortDirection × Nat) : Option NetId :=
  (m.ofDirection position.1)[position.2]?.join

/-- The map has a place for every port. -/
def Fits (m : PortMap) (d : Component) : Prop :=
  ∀ dir, (m.ofDirection dir).length = (d.ports dir).length

/-- The map in which no port has a net has a place for each. -/
theorem fits_empty (d : Component) : (empty d).Fits d := by
  intro dir
  cases dir <;> exact List.length_map _

/-- In the empty map no position has been given a net. -/
theorem at?_empty (d : Component) (position : PortDirection × Nat) :
    (empty d).at? position = none := by
  obtain ⟨dir, i⟩ := position
  -- a place is there without a net, or it is not there at all
  have hnone : ∀ ports : List String,
      ((ports.map fun _ => (none : Option NetId))[i]?).join = none := by
    intro ports
    rw [List.getElem?_map]
    cases ports[i]? <;> rfl
  cases dir <;> exact hnone _

/-- Giving a port a net does not change how many places there are. -/
theorem Fits.give (h : m.Fits d) (dir : PortDirection) (i : Nat) (net : NetId) :
    (m.give dir i net).Fits d := by
  intro dir'
  rw [← h dir']
  cases dir <;> cases dir' <;> simp [PortMap.give, ofDirection]

/-- Giving a port a net fills its position and no other. -/
theorem at?_give (h : m.Fits d) {dir : PortDirection} {i : Nat} (hi : i < (d.ports dir).length)
    (net : NetId) (position : PortDirection × Nat) :
    (m.give dir i net).at? position =
      if position = (dir, i) then some net else m.at? position := by
  obtain ⟨dir', j⟩ := position
  have hlt := hi
  rw [← h dir] at hlt
  unfold at?
  -- only where the directions agree can it be the same position
  cases dir <;> cases dir' <;>
    simp only [PortMap.give, ofDirection, List.getElem?_set, Prod.mk.injEq, reduceCtorEq,
      false_and, true_and, if_false] at hlt ⊢
  all_goals
    by_cases hij : i = j
    · subst hij
      simp [hlt]
    · rw [if_neg hij, if_neg (Ne.symm hij)]

/-- **What a list of connections does to the map**: each fills a position of its own. -/
structure Connected (d : Component) (connections : List (String × NetId)) (m m' : PortMap) :
    Prop where
  fits : m'.Fits d
  nodup : (connections.map fun x => d.findPort? x.1).Nodup
  given : ∀ x ∈ connections, ∃ position, d.findPort? x.1 = some position ∧
    m.at? position = none ∧ m'.at? position = some x.2
  others : ∀ position, (∀ x ∈ connections, d.findPort? x.1 ≠ some position) →
    m'.at? position = m.at? position

/-- A port is found at a position that is there. -/
theorem lt_length_of_findPort? {port : String} {dir : PortDirection} {i : Nat}
    (h : d.findPort? port = some (dir, i)) : i < (d.ports dir).length :=
  (List.getElem?_eq_some_iff.1 (Component.getElem?_ports_of_findPort? h)).1

/-- **What the loop has carried out**: each connection has filled an empty position, the one of its
port. -/
theorem connected_connectAll {connections : List (String × NetId)} (hfits : m.Fits d)
    (h : connectAll d connections m = .ok m') : Connected d connections m m' := by
  -- on the connections; the map varies, as the first one has filled a position
  induction connections generalizing m with
  | nil =>
    cases h
    exact ⟨hfits, List.nodup_nil, fun _ hx => absurd hx List.not_mem_nil, fun _ _ => rfl⟩
  | cons x connections ih =>
    obtain ⟨port, net⟩ := x
    rw [connectAll, connect] at h
    cases hfound : d.findPort? port with
    | none => simp [hfound] at h
    | some position =>
      obtain ⟨dir, i⟩ := position
      cases hgiven : m.at? (dir, i) with
      | some other =>
        have hisGiven : m.isGiven dir i = true := congrArg Option.isSome hgiven
        simp [hfound, hisGiven] at h
      | none =>
        have hisGiven : m.isGiven dir i = false := congrArg Option.isSome hgiven
        simp only [hfound, hisGiven, Bool.false_eq_true, if_false] at h
        have hi := lt_length_of_findPort? hfound
        have hrest := ih (hfits.give dir i net) h
        -- a later connection finds its position empty, so it is another one
        have hother : ∀ y ∈ connections, d.findPort? y.1 ≠ some (dir, i) := by
          intro y hy heq
          obtain ⟨position, hposition, hempty, -⟩ := hrest.given y hy
          obtain rfl : position = (dir, i) := Option.some.inj (hposition.symm.trans heq)
          rw [at?_give hfits hi, if_pos rfl] at hempty
          cases hempty
        refine ⟨hrest.fits, ?_, ?_, ?_⟩
        · refine List.nodup_cons.2 ⟨fun hmem => ?_, hrest.nodup⟩
          obtain ⟨y, hy, heq⟩ := List.mem_map.1 hmem
          exact hother y hy (heq.trans hfound)
        · intro y hy
          -- the first connection has filled its position, and no later one has touched it
          rcases List.mem_cons.1 hy with rfl | hy
          · refine ⟨(dir, i), hfound, hgiven, ?_⟩
            rw [hrest.others _ hother, at?_give hfits hi, if_pos rfl]
          · obtain ⟨position, hposition, hempty, hfilled⟩ := hrest.given y hy
            rw [at?_give hfits hi] at hempty
            split at hempty
            · cases hempty
            · exact ⟨position, hposition, hempty, hfilled⟩
        · intro position hnone
          rw [hrest.others position fun y hy => hnone y (List.mem_cons_of_mem _ hy),
            at?_give hfits hi, if_neg]
          rintro rfl
          exact hnone _ List.mem_cons_self hfound

/-- The loop runs through if each connection has a position of its own, and finds it empty. -/
theorem exists_connectAll {connections : List (String × NetId)} (hfits : m.Fits d)
    (hnodup : (connections.map fun x => d.findPort? x.1).Nodup)
    (hempty : ∀ x ∈ connections, ∃ position, d.findPort? x.1 = some position ∧
      m.at? position = none) :
    ∃ m', connectAll d connections m = .ok m' := by
  induction connections generalizing m with
  | nil => exact ⟨m, rfl⟩
  | cons x connections ih =>
    obtain ⟨port, net⟩ := x
    obtain ⟨hnew, hnodup⟩ := List.nodup_cons.1 hnodup
    obtain ⟨⟨dir, i⟩, hfound, hgiven⟩ := hempty _ List.mem_cons_self
    have hisGiven : m.isGiven dir i = false := congrArg Option.isSome hgiven
    rw [connectAll, connect]
    simp only [hfound, hisGiven, Bool.false_eq_true, if_false]
    -- the positions of the others are still empty, because they are others
    refine ih (hfits.give dir i net) hnodup fun y hy => ?_
    obtain ⟨position, hposition, hnone⟩ := hempty y (List.mem_cons_of_mem _ hy)
    refine ⟨position, hposition, ?_⟩
    rw [at?_give hfits (lt_length_of_findPort? hfound), if_neg, hnone]
    rintro rfl
    exact hnew (List.mem_map.2 ⟨y, hy, hposition.trans hfound.symm⟩)

/-- The nets of one direction can be read out exactly if every place has been filled. -/
theorem filled_eq_ok_iff {dir : PortDirection} {ports : List String} {nets : List (Option NetId)}
    (hlength : nets.length = ports.length) {ids : List NetId} :
    filled d dir ports nets = .ok ids ↔ nets = ids.map some := by
  -- port by port, with the nets and the answer getting shorter at the same time
  induction ports generalizing nets ids with
  | nil =>
    obtain rfl := List.length_eq_zero_iff.1 hlength
    rw [filled]
    · simp only [Except.ok.injEq, List.nil_eq, List.map_eq_nil_iff]
    · exact fun _ _ _ _ h => nomatch h
  | cons port ports ih =>
    cases nets with
    | nil => cases hlength
    | cons net nets =>
      cases net with
      | none => cases ids <;> simp [filled]
      | some id =>
        have hrest := @ih nets (Nat.succ.inj hlength)
        rw [filled]
        cases hids : filled d dir ports nets with
        | error e =>
          refine ⟨fun h => (nomatch h), fun h => ?_⟩
          cases ids with
          | nil => cases h
          | cons id' ids =>
            rw [hrest.2 (List.cons.inj h).2] at hids
            cases hids
        | ok ids' =>
          have hnets := hrest.1 hids
          subst hnets
          cases ids with
          | nil => simp
          | cons id' ids =>
            simp [List.map_inj_right (f := some) fun a b => Option.some.inj]

/-- Every port has its net: in the order of the ports, these are the given ones. -/
def IsFull (m : PortMap) (inputs outputs : List NetId) : Prop :=
  ∀ dir, m.ofDirection dir = (side inputs outputs dir).map some

/-- In a full map each position has its net. -/
theorem IsFull.at?_eq {inputs outputs : List NetId} (h : m.IsFull inputs outputs)
    (dir : PortDirection) (i : Nat) : m.at? (dir, i) = (side inputs outputs dir)[i]? := by
  unfold at?
  rw [h dir, List.getElem?_map]
  cases (side inputs outputs dir)[i]? <;> rfl

/-- A map is full if both of its lists are. -/
theorem isFull_iff {inputs outputs : List NetId} :
    m.IsFull inputs outputs ↔ m.inputs = inputs.map some ∧ m.outputs = outputs.map some := by
  refine ⟨fun h => ⟨h .input, h .output⟩, fun h dir => ?_⟩
  cases dir with
  | input => exact h.1
  | output => exact h.2

end PortMap

/-! ### Placing nets -/

section Placing

variable {d : Component} {connections : List (String × NetId)} {inputs outputs : List NetId}

/-- Nets are placed exactly if the connections are carried out and leave no port without a net. -/
theorem placePorts_eq_ok_iff_isFull :
    placePorts d connections = .ok (inputs, outputs) ↔
      ∃ m, PortMap.connectAll d connections (.empty d) = .ok m ∧ m.IsFull inputs outputs := by
  unfold placePorts
  cases hconnect : PortMap.connectAll d connections (.empty d) with
  | error e => exact ⟨fun h => (nomatch h), fun ⟨_, h, _⟩ => nomatch h⟩
  | ok m =>
    -- after the connections there is still a place for each port
    have hfits := (PortMap.connected_connectAll (PortMap.fits_empty d) hconnect).fits
    have hin {ids : List NetId} : PortMap.filled d .input d.inputPorts m.inputs = .ok ids ↔
        m.inputs = ids.map some := PortMap.filled_eq_ok_iff (hfits .input)
    have hout {ids : List NetId} : PortMap.filled d .output d.outputPorts m.outputs = .ok ids ↔
        m.outputs = ids.map some := PortMap.filled_eq_ok_iff (hfits .output)
    simp only [bind, Except.bind]
    constructor
    · intro h
      refine ⟨m, rfl, PortMap.isFull_iff.2 ?_⟩
      -- both sides have been filled, or there would be no answer
      cases hins : PortMap.filled d .input d.inputPorts m.inputs with
      | error e => simp [hins] at h
      | ok ins =>
        cases houts : PortMap.filled d .output d.outputPorts m.outputs with
        | error e => simp [hins, houts] at h
        | ok outs =>
          rw [hins, houts] at h
          cases h
          exact ⟨hin.1 hins, hout.1 houts⟩
    · rintro ⟨_, ⟨⟩, hfull⟩
      obtain ⟨hins, houts⟩ := PortMap.isFull_iff.1 hfull
      rw [hin.2 hins, hout.2 houts]
      rfl

/-- All positions are given, so each is found under the name of its port. -/
theorem connects_of_isFull {m : PortMap} (h : PortMap.Connected d connections (.empty d) m)
    (hfull : m.IsFull inputs outputs) : d.Connects connections inputs outputs := by
  have hlength : ∀ dir, (side inputs outputs dir).length = (d.ports dir).length := by
    intro dir
    rw [← h.fits dir, hfull dir, List.length_map]
  -- a position that no connection is for would still be empty
  have hgiven : ∀ dir i net, (side inputs outputs dir)[i]? = some net →
      ∃ x ∈ connections, d.findPort? x.1 = some (dir, i) := by
    intro dir i net hnet
    by_contra hnone
    push Not at hnone
    have hempty := h.others (dir, i) hnone
    rw [hfull.at?_eq, hnet, PortMap.at?_empty] at hempty
    cases hempty
  have hfound : ∀ dir i port, (d.ports dir)[i]? = some port → d.findPort? port = some (dir, i) := by
    intro dir i port hport
    have hi : i < (side inputs outputs dir).length := by
      rw [hlength dir]
      exact (List.getElem?_eq_some_iff.1 hport).1
    obtain ⟨x, -, hx⟩ := hgiven dir i _ (List.getElem?_eq_getElem hi)
    exact Component.eq_of_findPort? hx hport ▸ hx
  have hnodup := Component.nodup_allPorts_iff.2 hfound
  refine ⟨hnodup, hlength, (List.perm_ext_iff_of_nodup ?_ ?_).2 fun x => ?_⟩
  · exact List.Nodup.of_map _ h.nodup
  · refine List.Nodup.of_map Prod.fst ?_
    rwa [Component.map_fst_zip_allPorts hlength]
  · obtain ⟨port, net⟩ := x
    rw [Component.mem_zip_allPorts_iff hlength]
    constructor
    · intro hx
      obtain ⟨⟨dir, i⟩, hposition, -, hnet⟩ := h.given _ hx
      rw [hfull.at?_eq] at hnet
      exact ⟨dir, i, Component.getElem?_ports_of_findPort? hposition, hnet⟩
    · rintro ⟨dir, i, hport, hnet⟩
      obtain ⟨x, hx, hposition⟩ := hgiven dir i net hnet
      obtain ⟨_, hposition', -, hnet'⟩ := h.given x hx
      obtain rfl := Option.some.inj (hposition.symm.trans hposition')
      rw [hfull.at?_eq, hnet] at hnet'
      obtain rfl : x.1 = port := Component.eq_of_findPort? hposition hport
      obtain rfl : net = x.2 := Option.some.inj hnet'
      exact hx

/-- Every connection is for a port, and its position has not been given to another. -/
theorem exists_isFull (h : d.Connects connections inputs outputs) :
    ∃ m, PortMap.connectAll d connections (.empty d) = .ok m ∧ m.IsFull inputs outputs := by
  obtain ⟨m, hm⟩ :=
    PortMap.exists_connectAll (PortMap.fits_empty d) h.nodup_findPort? fun x hx => by
      obtain ⟨position, hposition⟩ := h.exists_findPort? hx
      exact ⟨position, hposition, PortMap.at?_empty d position⟩
  have hconnected := PortMap.connected_connectAll (PortMap.fits_empty d) hm
  -- the places are as many as the ports, and so are the items
  have hlength : ∀ dir, (m.ofDirection dir).length = (side inputs outputs dir).length :=
    fun dir => (hconnected.fits dir).trans (h.length_eq dir).symm
  refine ⟨m, hm, fun dir => List.ext_getElem ?_ fun i hi hi' => ?_⟩
  · rw [hlength dir, List.length_map]
  · -- the port at this position has a net, and the connection for it has been carried out
    rw [List.length_map] at hi'
    have hport := List.getElem?_eq_getElem (hconnected.fits dir ▸ hi)
    obtain ⟨position, hposition, -, hnet⟩ :=
      hconnected.given _ (h.mem_iff.2 ⟨dir, i, hport, List.getElem?_eq_getElem hi'⟩)
    obtain rfl : (dir, i) = position := Option.some.inj
      ((Component.nodup_allPorts_iff.1 h.nodup dir i _ hport).symm.trans hposition)
    rw [PortMap.at?, List.getElem?_eq_getElem hi] at hnet
    rw [List.getElem_map]
    exact hnet

/-- **Connections by name are placed exactly when they name every port once.** -/
theorem placePorts_eq_ok_iff :
    placePorts d connections = .ok (inputs, outputs) ↔
      d.Connects connections inputs outputs := by
  rw [placePorts_eq_ok_iff_isFull]
  constructor
  · rintro ⟨m, hm, hfull⟩
    exact connects_of_isFull (PortMap.connected_connectAll (PortMap.fits_empty d) hm) hfull
  · exact exists_isFull

end Placing

end Chip

end Netlist
