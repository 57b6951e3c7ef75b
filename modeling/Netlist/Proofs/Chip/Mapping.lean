import Netlist.Proofs.Chip.Acceptance
import Netlist.Proofs.Chip.Ports

/-!
# Instances by name and instances by position

An instance that is added by name is the instance that is added by position, once every port has its
net. Here the two calls are compared for every component, also for one that declares a port twice,
and for every list of connections.

`Component.Misplaces` is the relation between connections and the error they lead to. It goes by the
names alone: `NamesOnce` says of a list of connections that it names declared ports and none twice,
`Serves` that the port declared at some place is given a net, which needs the first declaration of
its name. Both are shown to be what the map of given nets says (`exists_connectAll_iff`,
`at?_positionOf_eq_none_iff`), so `placePorts_eq_error_iff` follows from the two loops of the code:
one over the connections and one over the places in the map. With `placePorts_eq_ok_iff` nothing is
left open, and `instantiateByName_refines` puts the two together.
-/

namespace Netlist

namespace Component

variable {d : Component}

/-! ### Places of ports -/

/-- The place in the order of declaration, as direction and position. -/
def positionOf (d : Component) (k : Nat) : PortDirection × Nat :=
  if k < d.inputPorts.length then (.input, k) else (.output, k - d.inputPorts.length)

/-- Different places in the order of declaration are different positions. -/
theorem positionOf_injective (d : Component) : Function.Injective d.positionOf := by
  intro j k h
  unfold positionOf at h
  -- two inputs, two outputs, or one of each, which differ in their direction
  split at h <;> split at h <;> simp only [Prod.mk.injEq, reduceCtorEq, false_and, true_and] at h
  · exact h
  · omega

/-- A port is found at the first place that declares its name. -/
theorem findPort?_eq_map (port : String) :
    d.findPort? port = (d.allPorts.findIdx? (· == port)).map d.positionOf := by
  unfold findPort? allPorts
  rw [List.findIdx?_append]
  cases hin : d.inputPorts.findIdx? (· == port) with
  | some i =>
    -- an input is found at its place; only without one are the outputs searched
    have hi : i < d.inputPorts.length := (List.findIdx?_eq_some_iff_getElem.1 hin).1
    simp [positionOf, hi]
  | none => cases d.outputPorts.findIdx? (· == port) <;> simp [positionOf]

/-- A port is not found exactly if nothing of its name is declared. -/
theorem findPort?_eq_none_iff {port : String} : d.findPort? port = none ↔ port ∉ d.allPorts := by
  rw [findPort?_eq_map, Option.map_eq_none_iff, List.findIdx?_eq_none_iff]
  constructor
  · exact fun h hmem => by simpa using h port hmem
  · exact fun h x hx => beq_eq_false_iff_ne.2 fun heq => h (heq ▸ hx)

/-- A port is found at a place exactly if its name is declared there and at no earlier place. -/
theorem findPort?_eq_positionOf_iff {port : String} {k : Nat} :
    d.findPort? port = some (d.positionOf k) ↔
      d.allPorts[k]? = some port ∧ port ∉ d.allPorts.take k := by
  rw [findPort?_eq_map, Option.map_eq_some_iff]
  have hfirst : d.allPorts.findIdx? (· == port) = some k ↔
      d.allPorts[k]? = some port ∧ port ∉ d.allPorts.take k := by
    rw [List.findIdx?_eq_some_iff_getElem]
    constructor
    · rintro ⟨hk, heq, hbefore⟩
      refine ⟨List.getElem?_eq_some_iff.2 ⟨hk, beq_iff_eq.1 heq⟩, fun hmem => ?_⟩
      obtain ⟨j, hj, hport⟩ := List.mem_take_iff_getElem.1 hmem
      exact hbefore j (by omega) (beq_iff_eq.2 hport)
    · rintro ⟨hport, hbefore⟩
      obtain ⟨hk, heq⟩ := List.getElem?_eq_some_iff.1 hport
      refine ⟨hk, beq_iff_eq.2 heq, fun j hj hsame => hbefore ?_⟩
      exact List.mem_take_iff_getElem.2 ⟨j, by omega, beq_iff_eq.1 hsame⟩
  rw [← hfirst]
  constructor
  · rintro ⟨j, hj, heq⟩
    rwa [← d.positionOf_injective heq]
  · exact fun h => ⟨k, h, rfl⟩

/-- The direction in which a port is found. -/
theorem direction_of_findPort? {port : String} {dir : PortDirection} {i : Nat}
    (h : d.findPort? port = some (dir, i)) :
    dir = if port ∈ d.inputPorts then .input else .output := by
  unfold findPort? at h
  split at h
  · next j hj =>
    obtain ⟨hlt, heq, -⟩ := List.findIdx?_eq_some_iff_getElem.1 hj
    cases h
    rw [if_pos (beq_iff_eq.1 heq ▸ List.getElem_mem hlt)]
  · next hnone =>
    obtain ⟨j, -, heq⟩ := Option.map_eq_some_iff.1 h
    cases heq
    rw [if_neg fun hmem => by simpa using List.findIdx?_eq_none_iff.1 hnone port hmem]

/-! ### The errors of a mapping -/

section Naming

variable {α : Type}

/-- The connections name declared ports, and none of them twice. -/
structure NamesOnce (d : Component) (connections : List (String × α)) : Prop where
  nodup : (connections.map Prod.fst).Nodup
  declared : ∀ x ∈ connections, x.1 ∈ d.allPorts

/-- The port at place `k` gets a net: it is named, and no port in front of it has its name. -/
def Serves (d : Component) (connections : List (String × α)) (k : Nat) : Prop :=
  ∃ port ∈ connections.map Prod.fst, d.allPorts[k]? = some port ∧ port ∉ d.allPorts.take k

/-- **What is wrong with connections by name.** The first connection that names no port, or a port
that has been named, decides. When there is none, it is the first port that gets no net. -/
inductive Misplaces (d : Component) (connections : List (String × α)) : NetlistError → Prop
  | unknown {before after : List (String × α)} {port : String} {item : α}
      (split : connections = before ++ (port, item) :: after) (once : d.NamesOnce before)
      (strange : port ∉ d.allPorts) :
      Misplaces d connections (.unknownPort d.name port)
  | again {before after : List (String × α)} {port : String} {item : α}
      (split : connections = before ++ (port, item) :: after) (once : d.NamesOnce before)
      (named : port ∈ before.map Prod.fst) :
      Misplaces d connections
        (.duplicatePort d.name port (if port ∈ d.inputPorts then .input else .output))
  | unconnected {k : Nat} {port : String}
      (once : d.NamesOnce connections) (place : d.allPorts[k]? = some port)
      (first : ∀ j < k, d.Serves connections j) (empty : ¬ d.Serves connections k) :
      Misplaces d connections
        (.unconnectedPort d.name port (if k < d.inputPorts.length then .input else .output))

/-- A name that comes up again is not named once. -/
theorem not_nodup_of_named {before after : List (String × α)} {port : String} {item : α}
    (named : port ∈ before.map Prod.fst) :
    ¬ ((before ++ (port, item) :: after).map Prod.fst).Nodup := by
  intro hnodup
  rw [List.map_append] at hnodup
  exact (List.nodup_append.1 hnodup).2.2 port named port List.mem_cons_self rfl

/-- Different declared names are found at different positions. -/
theorem namesOnce_iff {connections : List (String × α)} :
    d.NamesOnce connections ↔ (connections.map fun x => d.findPort? x.1).Nodup ∧
      ∀ x ∈ connections, ∃ position, d.findPort? x.1 = some position := by
  have hdeclared : (∀ x ∈ connections, x.1 ∈ d.allPorts) ↔
      ∀ x ∈ connections, ∃ position, d.findPort? x.1 = some position := by
    refine forall₂_congr fun x _ => ?_
    rw [← Option.ne_none_iff_exists', ne_eq, findPort?_eq_none_iff, not_not]
  constructor
  · rintro ⟨hnodup, hall⟩
    refine ⟨?_, hdeclared.1 hall⟩
    refine List.Nodup.map_on (fun x hx y hy hxy => ?_) (List.Nodup.of_map _ hnodup)
    obtain ⟨⟨dir, i⟩, hposition⟩ := hdeclared.1 hall x hx
    -- found at one position, the two have one name
    exact List.inj_on_of_nodup_map hnodup hx hy
      (eq_of_findPort? hposition (getElem?_ports_of_findPort? (hxy.symm.trans hposition)))
  · rintro ⟨hnodup, hall⟩
    refine ⟨List.Nodup.of_map d.findPort? ?_, hdeclared.2 hall⟩
    rwa [List.map_map]

/-- The order of connections does not matter. -/
theorem Connects.of_perm {connections connections' : List (String × α)} {inputs outputs : List α}
    (h : d.Connects connections inputs outputs) (hperm : connections'.Perm connections) :
    d.Connects connections' inputs outputs :=
  ⟨h.nodup, h.length_eq, hperm.trans h.perm⟩

end Naming

end Component

namespace Chip

/-! ### The two loops -/

namespace PortMap

variable {d : Component} {connections : List (String × NetId)} {m : PortMap}

/-- **Connections are accepted** when they name declared ports, none of them twice. -/
theorem exists_connectAll_iff :
    (∃ m, connectAll d connections (empty d) = .ok m) ↔ d.NamesOnce connections := by
  rw [Component.namesOnce_iff]
  constructor
  · rintro ⟨m, hm⟩
    -- what has been carried out has found every port in a position of its own
    have h := connected_connectAll (fits_empty d) hm
    refine ⟨h.nodup, fun x hx => ?_⟩
    obtain ⟨position, hposition, -⟩ := h.given x hx
    exact ⟨position, hposition⟩
  · rintro ⟨hnodup, hfound⟩
    refine exists_connectAll (fits_empty d) hnodup fun x hx => ?_
    obtain ⟨position, hposition⟩ := hfound x hx
    exact ⟨position, hposition, at?_empty d position⟩

/-- Connections are refused at one of them, after those in front of it have been accepted. -/
theorem connectAll_eq_error_iff {e : NetlistError} :
    connectAll d connections m = .error e ↔ ∃ before port net after m',
      connections = before ++ (port, net) :: after ∧ connectAll d before m = .ok m' ∧
      m'.connect d port net = .error e := by
  constructor
  · intro h
    -- along the connections, up to the one that is refused; the map varies
    induction connections generalizing m with
    | nil => cases h
    | cons x connections ih =>
      obtain ⟨port, net⟩ := x
      rw [connectAll] at h
      cases hconnect : m.connect d port net with
      | error e' =>
        rw [hconnect] at h
        obtain rfl : e' = e := Except.error.inj h
        exact ⟨[], port, net, connections, m, rfl, rfl, hconnect⟩
      | ok m' =>
        rw [hconnect] at h
        obtain ⟨before, port', net', after, m'', rfl, hbefore, herror⟩ := ih h
        refine ⟨(port, net) :: before, port', net', after, m'', rfl, ?_, herror⟩
        rw [connectAll, hconnect]
        exact hbefore
  · rintro ⟨before, port, net, after, m', rfl, hbefore, herror⟩
    -- along those that are accepted, and the refused one comes behind them
    induction before generalizing m with
    | nil =>
      cases hbefore
      rw [List.nil_append, connectAll, herror]
    | cons x before ih =>
      obtain ⟨port', net'⟩ := x
      rw [connectAll] at hbefore
      rw [List.cons_append, connectAll]
      cases hconnect : m.connect d port' net' with
      | error e' =>
        rw [hconnect] at hbefore
        cases hbefore
      | ok m'' =>
        rw [hconnect] at hbefore
        exact ih hbefore

/-- A position is given when some connection is for it. -/
theorem Connected.at?_eq_none_iff (h : Connected d connections (empty d) m)
    {position : PortDirection × Nat} :
    m.at? position = none ↔ ∀ x ∈ connections, d.findPort? x.1 ≠ some position := by
  constructor
  · intro hnone x hx hfound
    obtain ⟨position', hposition, -, hnet⟩ := h.given x hx
    obtain rfl := Option.some.inj (hfound.symm.trans hposition)
    rw [hnone] at hnet
    cases hnet
  · intro hnone
    rw [h.others position hnone, at?_empty]

/-- A port has been given a net exactly if some connection has named it. -/
theorem Connected.isGiven_iff (h : Connected d connections (empty d) m) {port : String}
    {dir : PortDirection} {i : Nat} (hfound : d.findPort? port = some (dir, i)) :
    m.isGiven dir i = true ↔ port ∈ connections.map Prod.fst := by
  have hsome : m.isGiven dir i = true ↔ m.at? (dir, i) ≠ none := Option.isSome_iff_ne_none
  rw [hsome, ne_eq, h.at?_eq_none_iff]
  push Not
  constructor
  · rintro ⟨x, hx, hposition⟩
    -- the connection for this position can only be the one of this name
    have hport := Component.eq_of_findPort? hposition (Component.getElem?_ports_of_findPort? hfound)
    exact List.mem_map.2 ⟨x, hx, hport⟩
  · intro hmem
    obtain ⟨x, hx, rfl⟩ := List.mem_map.1 hmem
    exact ⟨x, hx, hfound⟩

/-- **A place stays empty** when no connection serves the port that is declared there. -/
theorem Connected.at?_positionOf_eq_none_iff (h : Connected d connections (empty d) m) {k : Nat} :
    m.at? (d.positionOf k) = none ↔ ¬ d.Serves connections k := by
  rw [h.at?_eq_none_iff]
  simp only [ne_eq, Component.findPort?_eq_positionOf_iff]
  constructor
  · rintro hnone ⟨port, hmem, hplace⟩
    obtain ⟨x, hx, rfl⟩ := List.mem_map.1 hmem
    exact hnone x hx hplace
  · exact fun hnot x hx hplace => hnot ⟨x.1, List.mem_map_of_mem hx, hplace⟩

/-- One more connection is refused when its port is not declared or has been given. -/
theorem connect_eq_error_iff {port : String} {net : NetId} {e : NetlistError} :
    m.connect d port net = .error e ↔
      (d.findPort? port = none ∧ .unknownPort d.name port = e) ∨
        ∃ dir i, d.findPort? port = some (dir, i) ∧ m.isGiven dir i = true ∧
          .duplicatePort d.name port dir = e := by
  unfold connect
  cases d.findPort? port with
  | none => simp
  | some position =>
    obtain ⟨dir, i⟩ := position
    cases hgiven : m.isGiven dir i with
    | false => simp [hgiven]
    | true => simp [hgiven]

/-- The nets of one direction fall short at the first port without a net. -/
theorem filled_eq_error_iff {dir : PortDirection} {ports : List String}
    {nets : List (Option NetId)} (hlength : nets.length = ports.length) {e : NetlistError} :
    filled d dir ports nets = .error e ↔ ∃ (i : Nat) (port : String), ports[i]? = some port ∧
      nets[i]?.join = none ∧ (∀ j < i, nets[j]?.join ≠ none) ∧
      .unconnectedPort d.name port dir = e := by
  induction ports generalizing nets with
  | nil =>
    obtain rfl := List.length_eq_zero_iff.1 hlength
    rw [filled]
    · simp
    · intro _ _ _ _ h
      cases h
  | cons port ports ih =>
    cases nets with
    | nil => cases hlength
    | cons net nets =>
      cases net with
      | none =>
        rw [filled]
        constructor
        · intro h
          exact ⟨0, port, rfl, rfl, fun j hj => absurd hj (Nat.not_lt_zero j), Except.error.inj h⟩
        · rintro ⟨i, port', hport, -, hbefore, rfl⟩
          -- the first port has no net, so it is the one
          cases i with
          | zero =>
            obtain rfl : port = port' := Option.some.inj hport
            rfl
          | succ i => exact absurd rfl (hbefore 0 (Nat.succ_pos i))
      | some id =>
        have hrest := ih (Nat.succ.inj hlength)
        -- a port that has its net is passed over
        have hskip : filled d dir (port :: ports) (some id :: nets) = .error e ↔
            filled d dir ports nets = .error e := by
          rw [filled]
          cases filled d dir ports nets with
          | error e' => simp
          | ok ids => simp
        rw [hskip, hrest]
        constructor
        · rintro ⟨i, port', hport, hnone, hbefore, he⟩
          refine ⟨i + 1, port', hport, hnone, fun j hj => ?_, he⟩
          cases j with
          | zero => exact Option.some_ne_none id
          | succ j => exact hbefore j (by omega)
        · rintro ⟨i, port', hport, hnone, hbefore, he⟩
          cases i with
          | zero => cases hnone
          | succ i => exact ⟨i, port', hport, hnone, fun j hj => hbefore (j + 1) (by omega), he⟩

/-- The first places are those of the inputs. -/
theorem at?_positionOf_input {k : Nat} (h : k < d.inputPorts.length) :
    m.at? (d.positionOf k) = m.inputs[k]?.join := by
  rw [Component.positionOf, if_pos h]
  rfl

/-- The places behind them are those of the outputs. -/
theorem at?_positionOf_output (i : Nat) :
    m.at? (d.positionOf (d.inputPorts.length + i)) = m.outputs[i]?.join := by
  rw [Component.positionOf, if_neg (by omega), Nat.add_sub_cancel_left]
  rfl

/-- The port at place `k` is the first without a net. -/
def FallsShort (m : PortMap) (d : Component) (k : Nat) (port : String) : Prop :=
  d.allPorts[k]? = some port ∧ m.at? (d.positionOf k) = none ∧
    ∀ j < k, m.at? (d.positionOf j) ≠ none

/-- Reading out the inputs fails at the first place without a net, if that is the place of an input.
-/
theorem filled_inputs_eq_error_iff (h : m.Fits d) {e : NetlistError} :
    filled d .input d.inputPorts m.inputs = .error e ↔ ∃ k port, k < d.inputPorts.length ∧
      m.FallsShort d k port ∧ .unconnectedPort d.name port .input = e := by
  refine (filled_eq_error_iff (h .input)).trans ?_
  constructor
  · rintro ⟨k, port, hport, hnone, hbefore, he⟩
    have hk : k < d.inputPorts.length := (List.getElem?_eq_some_iff.1 hport).1
    -- the place of an input in the whole order is its position among the inputs
    have hplace : d.allPorts[k]? = some port := (List.getElem?_append_left hk).trans hport
    refine ⟨k, port, hk, ⟨hplace, (at?_positionOf_input hk).trans hnone, fun j hj hempty => ?_⟩, he⟩
    exact hbefore j hj ((at?_positionOf_input (hj.trans hk)).symm.trans hempty)
  · rintro ⟨k, port, hk, ⟨hplace, hnone, hbefore⟩, he⟩
    have hport : d.inputPorts[k]? = some port := (List.getElem?_append_left hk).symm.trans hplace
    refine ⟨k, port, hport, (at?_positionOf_input hk).symm.trans hnone, fun j hj hempty => ?_, he⟩
    exact hbefore j hj ((at?_positionOf_input (hj.trans hk)).trans hempty)

/-- Reading out the outputs fails at the first place without a net: once the inputs are complete, it
is that of an output. -/
theorem filled_outputs_eq_error_iff (h : m.Fits d) {inputs : List NetId}
    (hins : filled d .input d.inputPorts m.inputs = .ok inputs) {e : NetlistError} :
    filled d .output d.outputPorts m.outputs = .error e ↔ ∃ k port, ¬ k < d.inputPorts.length ∧
      m.FallsShort d k port ∧ .unconnectedPort d.name port .output = e := by
  have hplace : ∀ i, d.allPorts[d.inputPorts.length + i]? = d.outputPorts[i]? := by
    intro i
    rw [Component.allPorts, List.getElem?_append_right (by omega), Nat.add_sub_cancel_left]
  -- all inputs have their nets
  have hfull : ∀ j < d.inputPorts.length, m.at? (d.positionOf j) ≠ none := by
    intro j hj
    have hmap : m.inputs = inputs.map some := (filled_eq_ok_iff (h .input)).1 hins
    have hlength : m.inputs.length = d.inputPorts.length := h .input
    have hj' : j < (inputs.map some).length := by rwa [← hmap, hlength]
    rw [at?_positionOf_input hj, hmap, List.getElem?_eq_getElem hj', List.getElem_map]
    exact Option.some_ne_none _
  refine (filled_eq_error_iff (h .output)).trans ?_
  constructor
  · rintro ⟨i, port, hport, hnone, hbefore, he⟩
    refine ⟨d.inputPorts.length + i, port, by omega, ⟨(hplace i).trans hport,
      (at?_positionOf_output i).trans hnone, fun j hj => ?_⟩, he⟩
    -- in front of the failing output stand all inputs and some outputs
    by_cases hinput : j < d.inputPorts.length
    · exact hfull j hinput
    · obtain ⟨j, rfl⟩ := Nat.exists_eq_add_of_le (Nat.le_of_not_lt hinput)
      rw [at?_positionOf_output]
      exact hbefore j (by omega)
  · rintro ⟨k, port, hk, ⟨hport, hnone, hbefore⟩, he⟩
    obtain ⟨i, rfl⟩ := Nat.exists_eq_add_of_le (Nat.le_of_not_lt hk)
    refine ⟨i, port, (hplace i).symm.trans hport, (at?_positionOf_output i).symm.trans hnone,
      fun j hj hempty => ?_, he⟩
    exact hbefore _ (by omega) ((at?_positionOf_output j).trans hempty)

/-- Of two readings in a row, the second counts once the first has been good. -/
theorem both_eq_error_iff {ε α β : Type} {x : Except ε α} {y : Except ε β} {e : ε} :
    (do let a ← x
        let b ← y
        return (a, b)) = (.error e : Except ε (α × β)) ↔
      x = .error e ∨ (∃ a, x = .ok a) ∧ y = .error e := by
  cases x with
  | error e' => simp [bind, Except.bind]
  | ok a => cases y <;> simp [bind, Except.bind, pure, Except.pure]

/-- **The map is read out** up to the first port without a net, in the order of declaration. -/
theorem filled_both_eq_error_iff (h : m.Fits d) {e : NetlistError} :
    (do let inputs ← filled d .input d.inputPorts m.inputs
        let outputs ← filled d .output d.outputPorts m.outputs
        return (inputs, outputs)) = (.error e : Except NetlistError (List NetId × List NetId)) ↔
      ∃ k port, m.FallsShort d k port ∧
        .unconnectedPort d.name port (if k < d.inputPorts.length then .input else .output) = e := by
  rw [both_eq_error_iff]
  constructor
  · rintro (hins | ⟨⟨inputs, hins⟩, houts⟩)
    · obtain ⟨k, port, hk, hfalls, he⟩ := (filled_inputs_eq_error_iff h).1 hins
      exact ⟨k, port, hfalls, by rwa [if_pos hk]⟩
    · obtain ⟨k, port, hk, hfalls, he⟩ := (filled_outputs_eq_error_iff h hins).1 houts
      exact ⟨k, port, hfalls, by rwa [if_neg hk]⟩
  · rintro ⟨k, port, hfalls, he⟩
    -- the side on which the first empty place lies is the one that fails
    by_cases hk : k < d.inputPorts.length
    · rw [if_pos hk] at he
      exact .inl ((filled_inputs_eq_error_iff h).2 ⟨k, port, hk, hfalls, he⟩)
    · rw [if_neg hk] at he
      cases hins : filled d .input d.inputPorts m.inputs with
      | error e' =>
        -- an input falls short, so no output is the first to do so
        obtain ⟨i, port', hi, hshort, -⟩ := (filled_inputs_eq_error_iff h).1 hins
        exact absurd hshort.2.1 (hfalls.2.2 i (by omega))
      | ok inputs =>
        exact .inr ⟨⟨inputs, rfl⟩,
          (filled_outputs_eq_error_iff h hins).2 ⟨k, port, hk, hfalls, he⟩⟩

end PortMap

/-! ### Both calls -/

section Mapping

variable {d : Component} {connections : List (String × NetId)}

/-- **Connections by name go wrong exactly as their names say.** -/
theorem placePorts_eq_error_iff {e : NetlistError} :
    placePorts d connections = .error e ↔ d.Misplaces connections e := by
  unfold placePorts
  cases hconnect : PortMap.connectAll d connections (.empty d) with
  | error e' =>
    -- the first loop has failed, so some name is strange or comes again
    have hnot : ¬ d.NamesOnce connections := by
      intro honce
      obtain ⟨m, hm⟩ := PortMap.exists_connectAll_iff.2 honce
      rw [hconnect] at hm
      cases hm
    constructor
    · intro heq
      obtain rfl : e' = e := Except.error.inj heq
      obtain ⟨before, port, net, after, m, hsplit, hbefore, herror⟩ :=
        PortMap.connectAll_eq_error_iff.1 hconnect
      have honce := PortMap.exists_connectAll_iff.1 ⟨m, hbefore⟩
      have hconnected := PortMap.connected_connectAll (PortMap.fits_empty d) hbefore
      rcases PortMap.connect_eq_error_iff.1 herror with
        ⟨hnone, rfl⟩ | ⟨dir, i, hfound, hgiven, rfl⟩
      · exact .unknown hsplit honce (Component.findPort?_eq_none_iff.1 hnone)
      · rw [Component.direction_of_findPort? hfound]
        exact .again hsplit honce ((hconnected.isGiven_iff hfound).1 hgiven)
    · intro hmis
      -- a description that fits leads to the error that has occurred, so it is the only one
      refine congrArg Except.error (Except.error.inj (hconnect.symm.trans ?_))
      cases hmis with
      | unknown hsplit honce hstrange =>
        obtain ⟨m, hm⟩ := PortMap.exists_connectAll_iff.2 honce
        have hnone := Component.findPort?_eq_none_iff.2 hstrange
        exact PortMap.connectAll_eq_error_iff.2 ⟨_, _, _, _, m, hsplit, hm,
          PortMap.connect_eq_error_iff.2 (.inl ⟨hnone, rfl⟩)⟩
      | again hsplit honce hnamed =>
        obtain ⟨m, hm⟩ := PortMap.exists_connectAll_iff.2 honce
        have hconnected := PortMap.connected_connectAll (PortMap.fits_empty d) hm
        obtain ⟨x, hx, rfl⟩ := List.mem_map.1 hnamed
        obtain ⟨⟨dir, i⟩, hfound, -⟩ := hconnected.given x hx
        rw [← Component.direction_of_findPort? hfound]
        exact PortMap.connectAll_eq_error_iff.2 ⟨_, _, _, _, m, hsplit, hm,
          PortMap.connect_eq_error_iff.2
            (.inr ⟨dir, i, hfound, (hconnected.isGiven_iff hfound).2 hnamed, rfl⟩)⟩
      | unconnected honce => exact absurd honce hnot
  | ok m =>
    have honce := PortMap.exists_connectAll_iff.1 ⟨m, hconnect⟩
    have hconnected := PortMap.connected_connectAll (PortMap.fits_empty d) hconnect
    -- the first loop has been passed, so only a port without a net is left
    refine (PortMap.filled_both_eq_error_iff hconnected.fits).trans ?_
    simp only [PortMap.FallsShort, ne_eq, hconnected.at?_positionOf_eq_none_iff, not_not]
    constructor
    · rintro ⟨k, port, ⟨hplace, hempty, hfirst⟩, rfl⟩
      exact .unconnected honce hplace hfirst hempty
    · intro hmis
      cases hmis with
      | unknown hsplit _ hstrange =>
        exact absurd (honce.declared _ (hsplit ▸ List.mem_append_right _ List.mem_cons_self))
          hstrange
      | again hsplit _ hnamed =>
        exact absurd (hsplit ▸ honce.nodup) (Component.not_nodup_of_named hnamed)
      | unconnected _ hplace hfirst hempty => exact ⟨_, _, ⟨hplace, hempty, hfirst⟩, rfl⟩

/-- Connections that are not wrong are right. -/
theorem exists_connects_of_not_misplaces (h : ∀ e, ¬ d.Misplaces connections e) :
    ∃ inputs outputs, d.Connects connections inputs outputs := by
  cases hplaced : placePorts d connections with
  | error e => exact absurd (placePorts_eq_error_iff.1 hplaced) (h e)
  | ok nets => exact ⟨nets.1, nets.2, placePorts_eq_ok_iff.1 hplaced⟩

/-- A port that is declared twice cannot be connected by name. -/
theorem exists_misplaces_of_not_nodup (h : ¬ d.allPorts.Nodup)
    (connections : List (String × NetId)) : ∃ e, d.Misplaces connections e := by
  by_contra hnone
  push Not at hnone
  obtain ⟨inputs, outputs, hconnects⟩ := exists_connects_of_not_misplaces hnone
  exact h hconnects.nodup

/-- Connections that name every port once are carried out by position. -/
theorem instantiateByName_of_connects (c : Chip) {inputs outputs : List NetId}
    (h : d.Connects connections inputs outputs) :
    c.instantiateByName d connections = c.instantiate d inputs outputs := by
  rw [instantiateByName, placePorts_eq_ok_iff.2 h]

/-- Connections that go wrong are refused, and the chip is not looked at. -/
theorem instantiateByName_of_misplaces (c : Chip) {e : NetlistError}
    (h : d.Misplaces connections e) : c.instantiateByName d connections = c.refuse e := by
  rw [instantiateByName, placePorts_eq_error_iff.2 h]

/-- **Instances by name refine instances by position.** Of a component whose ports have different
names, any arrangement of the ports with their nets does what the lists of nets do by position. For
any component and any connections: a success has named the ports that are declared, each once, and
is the same in any other order; connections that are wrong are refused with the error of
`Misplaces`, whatever the chip holds against the nets, and the chip stays; connections that are not
wrong are carried out by position. A component that declares a port twice is always refused. -/
theorem instantiateByName_refines (c : Chip) (d : Component) :
    (d.allPorts.Nodup → ∀ inputs outputs : List NetId,
        (inputs.length, outputs.length) = d.arity → ∀ connections : List (String × NetId),
        connections.Perm (d.inputPorts.zip inputs ++ d.outputPorts.zip outputs) →
        c.instantiateByName d connections = c.instantiate d inputs outputs) ∧
      (∀ connections id, (c.instantiateByName d connections).outcome = .ok id →
        (connections.map Prod.fst).Perm d.allPorts ∧
        ∀ connections', connections'.Perm connections →
          c.instantiateByName d connections' = c.instantiateByName d connections) ∧
      (∀ connections e, d.Misplaces connections e →
        c.instantiateByName d connections = c.refuse e) ∧
      (∀ connections, (∀ e, ¬ d.Misplaces connections e) →
        ∃ inputs outputs, d.Connects connections inputs outputs ∧
          c.instantiateByName d connections = c.instantiate d inputs outputs) ∧
      (¬ d.allPorts.Nodup → ∀ connections, ∃ e, d.Misplaces connections e ∧
        (c.instantiateByName d connections).outcome = .error e) := by
  refine ⟨?_, ?_, fun _ _ => instantiateByName_of_misplaces c, ?_, ?_⟩
  · intro hnodup inputs outputs harity connections hperm
    obtain ⟨hinputs, houtputs⟩ := Prod.mk.inj harity
    refine instantiateByName_of_connects c ⟨hnodup, fun dir => ?_, ?_⟩
    · -- there is a net for each port, on either side
      cases dir with
      | input => exact hinputs
      | output => exact houtputs
    · rw [Component.allPorts, List.zip_append hinputs.symm]
      exact hperm
  · intro connections id hok
    obtain ⟨inputs, outputs, hplaced, heq⟩ := instantiateByName_of_ok hok
    have hconnects := placePorts_eq_ok_iff.1 hplaced
    refine ⟨hconnects.map_fst, fun connections' hperm => ?_⟩
    rw [instantiateByName_of_connects c (hconnects.of_perm hperm), heq]
  · intro connections hnone
    obtain ⟨inputs, outputs, hconnects⟩ := exists_connects_of_not_misplaces hnone
    exact ⟨inputs, outputs, hconnects, instantiateByName_of_connects c hconnects⟩
  · intro htwice connections
    obtain ⟨e, he⟩ := exists_misplaces_of_not_nodup htwice connections
    exact ⟨e, he, congrArg Step.outcome (instantiateByName_of_misplaces c he)⟩

/-- A mixer is added to the open chip by name, in an order that is not that of its ports. Without
its last net it is refused for that port, although its first net could not be had either; and what
has a port twice can never be added. -/
theorem instantiateByName_refines_mixer :
    openChip.instantiateByName mixer [("q", ⟨1⟩), ("y", ⟨2⟩), ("x", ⟨0⟩), ("p", ⟨2⟩)] =
        openChip.instantiate mixer [⟨0⟩, ⟨2⟩] [⟨2⟩, ⟨1⟩] ∧
      openChip.instantiateByName mixer [("x", ⟨1⟩), ("y", ⟨2⟩), ("p", ⟨2⟩)] =
        openChip.refuse (.unconnectedPort "Mixer" "q" .output) ∧
      ∃ e, (openChip.instantiateByName ⟨"Echo", ["x"], ["x"], ""⟩
        [("x", ⟨0⟩), ("x", ⟨1⟩)]).outcome = .error e := by
  obtain ⟨hnamed, -, hwrong, -, -⟩ := instantiateByName_refines openChip mixer
  obtain ⟨-, -, -, -, htwice⟩ := instantiateByName_refines openChip ⟨"Echo", ["x"], ["x"], ""⟩
  refine ⟨hnamed (by decide) [⟨0⟩, ⟨2⟩] [⟨2⟩, ⟨1⟩] rfl _ (by decide), hwrong _ _ ?_, ?_⟩
  · exact placePorts_eq_error_iff.1 rfl
  · obtain ⟨e, -, he⟩ := htwice (by decide) [("x", ⟨0⟩), ("x", ⟨1⟩)]
    exact ⟨e, he⟩

end Mapping

end Chip

end Netlist
