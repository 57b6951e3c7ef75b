import Netlist.Proofs.Chip.Namespace
import Netlist.Proofs.Chip.Outcome
import Netlist.Proofs.Chip.Ports

/-!
# Every look-up finds something

When an instance is added, nets, instances, names and ports are looked up by their numbers, and the
definitions have an answer for numbers that stand for nothing: the end of a net that is not there is
passed over, and what has no name is called by the empty string. Here the same calls are written
with look-ups that fail. `instantiate?` and `instantiateByName?` have no answer as soon as one
number is out of range, be it on the way, in an event, in an error or in the rollback.

`instantiate?_eq` and `instantiateByName?_eq` say that this does not happen to a chip that keeps its
invariants, for no component and no numbers of nets whatever: the calls have an answer, and it is
that of `instantiate` and `instantiateByName`. The reasons differ from look-up to look-up. Nets that
are asked for are checked before they are bound, and binding keeps their number; the holder of an
end is an instance of the chip by `Wired`; names resolve by `Named`; and a port is found at a
position below the number of ports (`PortMap.Fits`).
-/

namespace Netlist

namespace Arena

variable {α : Type} {a : Arena α} {i : Nat} {x : α}

/-- An item that is there can be replaced. -/
theorem set?_of_get? (h : a.get? i = some x) (y : α) :
    a.set? i y = some (a.modify i fun _ => y) := by
  rw [set?, if_pos (contains_iff.2 (lt_size_of_get? h))]

/-- Changing an item is putting the changed item in its place. -/
theorem modify_eq_of_get? (h : a.get? i = some x) (f : α → α) :
    (a.modify i fun _ => f x) = a.modify i f := by
  refine congrArg Arena.mk (List.ext_getElem? fun j => ?_)
  -- only in the one place is there anything to compare, and there `x` is what stands
  rw [List.getElem?_modify, List.getElem?_modify]
  by_cases hij : i = j
  · subst hij
    rw [show a.toList[i]? = some x from h]
    simp
  · simp [hij]

end Arena

namespace Chip

/-! ### Look-ups that fail -/

/-- The name of a net, if there is such a net and it has a name. -/
def netName? (c : Chip) (id : NetId) : Option String := do
  c.names.resolve? (← c.net? id).name

/-- The name of an instance, if there is such an instance and it has a name. -/
def instanceName? (c : Chip) (id : InstanceId) : Option String := do
  c.names.resolve? (← c.instance? id).name

/-- Binds net ends to an instance; every net that is reached has to be there. -/
def bindAll? (id : InstanceId) : List NetEnd → Arena Net → Option Binding
  | [], nets => some ⟨nets, [], none⟩
  | e :: rest, nets => do
    match (← nets.get? e.net.index).bind e.slot id with
    | .error conflict => return ⟨nets, [], some (e, conflict)⟩
    | .ok n' =>
      let after ← bindAll? id rest (← nets.set? e.net.index n')
      return { after with bound := e :: after.bound }

/-- Releases net ends of nets that have to be there. -/
def unbindAll? (ends : List NetEnd) (nets : Arena Net) : Option (Arena Net) :=
  ends.foldlM (fun nets e => do
    nets.set? e.net.index ((← nets.get? e.net.index).unbind e.slot)) nets

/-- Who holds an end, in words, where an instance has to have a name. -/
def holderText? (c : Chip) (pending : InstanceId) : Endpoint → Option String
  | .external => some "the chip boundary"
  | .instance id =>
    if id = pending then some "the instance being created"
    else (c.instanceName? id).map fun name => s!"instance `{name}`"

/-- The error for an end that refused, where all that it names has to be there. -/
def conflictError? (c : Chip) (pending : InstanceId) (e : NetEnd) (conflict : SlotConflict) :
    Option NetlistError := do
  return .alreadyBound (← c.netName? e.net) conflict.kind conflict.slot
    (← c.holderText? pending conflict.holder)

/-- The events for ends that were bound. -/
def boundEvents? (c : Chip) (id : InstanceId) (bound : List NetEnd) : Option (List Event) :=
  bound.mapM fun e => (c.netName? e.net).map fun name => Event.bound name e.slot id

/-- **Adds an instance, by position**, with look-ups that fail. -/
def instantiate? (c : Chip) (d : Component) (inputs outputs : List NetId) :
    Option (Step InstanceId) :=
  match c.requestError? d inputs outputs with
  | some e => some (c.refuse e)
  | none => do
    let id : InstanceId := ⟨c.instances.next⟩
    let binding ← bindAll? id (endsOf inputs outputs) c.nets
    let boundEvents ← c.boundEvents? id binding.bound
    match binding.refused with
    | some (e, conflict) =>
      let error ← c.conflictError? id e conflict
      return {
        chip := { c with nets := ← unbindAll? binding.bound.reverse binding.nets }
        outcome := .error error
        events := boundEvents ++ [.rolledBack c.name d.name error.message] }
    | none =>
      let name := c.nextInstanceName d
      return {
        chip := { c with
          nets := binding.nets
          names := c.names.claim name
          instances := c.instances.push
            { id, name := c.names.claimedId name, component := d, inputs, outputs } }
        outcome := .ok id
        events := boundEvents ++ [.instanceRegistered c.name name d.name] }

namespace PortMap

/-- Adds one connection; the port that is found has to have a place. -/
def connect? (d : Component) (m : PortMap) (port : String) (net : NetId) :
    Option (Except NetlistError PortMap) :=
  match d.findPort? port with
  | none => some (.error (.unknownPort d.name port))
  | some (direction, i) =>
    (m.ofDirection direction)[i]?.map fun given =>
      if given.isSome then .error (.duplicatePort d.name port direction)
      else .ok (m.give direction i net)

/-- Adds connections, up to the first that is refused. -/
def connectAll? (d : Component) :
    List (String × NetId) → PortMap → Option (Except NetlistError PortMap)
  | [], m => some (.ok m)
  | (port, net) :: rest, m => do
    match ← m.connect? d port net with
    | .error e => return .error e
    | .ok m' => connectAll? d rest m'

end PortMap

/-- The nets for the ports of a component, from connections by name. -/
def placePorts? (d : Component) (connections : List (String × NetId)) :
    Option (Except NetlistError (List NetId × List NetId)) := do
  match ← PortMap.connectAll? d connections (.empty d) with
  | .error e => return .error e
  | .ok ports => return do
    let inputs ← PortMap.filled d .input d.inputPorts ports.inputs
    let outputs ← PortMap.filled d .output d.outputPorts ports.outputs
    return (inputs, outputs)

/-- **Adds an instance, by name**, with look-ups that fail. -/
def instantiateByName? (c : Chip) (d : Component) (connections : List (String × NetId)) :
    Option (Step InstanceId) := do
  match ← placePorts? d connections with
  | .error e => return c.refuse e
  | .ok (inputs, outputs) => c.instantiate? d inputs outputs

/-! ### Names -/

section Names

variable {c : Chip}

/-- Every net of the chip has a name. -/
theorem Named.netName?_eq (h : c.Named) {id : NetId} (hid : id.index < c.nets.size) :
    c.netName? id = some (c.netName id) := by
  obtain ⟨n, hn⟩ := Arena.exists_get? hid
  have hnet : c.net? id = some n := hn
  have hname : c.names.resolve? n.name = some (c.names.resolve n.name) :=
    NameTable.resolve?_eq_some (h.net n (Arena.mem_toList_iff.2 ⟨_, hn⟩))
  rw [netName?, netName_eq hnet, hnet]
  exact hname

/-- Every instance of the chip has a name. -/
theorem Named.instanceName?_eq (h : c.Named) {id : InstanceId} {i : Instance}
    (hi : c.instance? id = some i) : c.instanceName? id = some (c.instanceName id) := by
  have hname : c.names.resolve? i.name = some (c.names.resolve i.name) :=
    NameTable.resolve?_eq_some (h.inst i (Arena.mem_toList_iff.2 ⟨_, hi⟩))
  rw [instanceName?, instanceName, hi]
  exact hname

/-- So the events of binds can be told. -/
theorem Named.boundEvents?_eq (h : c.Named) (id : InstanceId) {bound : List NetEnd}
    (hin : ∀ e ∈ bound, e.net.index < c.nets.size) : c.boundEvents? id bound =
      some (bound.map fun e => Event.bound (c.netName e.net) e.slot id) := by
  unfold boundEvents?
  -- each end by itself
  induction bound with
  | nil => rfl
  | cons e bound ih =>
    obtain ⟨hfirst, hrest⟩ := List.forall_mem_cons.1 hin
    rw [List.mapM_cons, h.netName?_eq hfirst, ih hrest]
    rfl

end Names

/-! ### The bind loop -/

/-- **The loop finds every net**: the nets are there, and binding does not take any away. -/
theorem bindAll?_eq (id : InstanceId) {ends : List NetEnd} {nets : Arena Net}
    (hin : ∀ e ∈ ends, e.net.index < nets.size) :
    bindAll? id ends nets = some (bindAll id ends nets) := by
  -- on the ends; the arena varies, but not its size
  induction ends generalizing nets with
  | nil => rfl
  | cons e ends ih =>
    obtain ⟨hfirst, hrest⟩ := List.forall_mem_cons.1 hin
    obtain ⟨n, hn⟩ := Arena.exists_get? hfirst
    rw [bindAll?, bindAll, hn, Option.bind_eq_bind, Option.bind_some]
    simp only
    cases n.bind e.slot id with
    | error conflict => rfl
    | ok n' =>
      have hrest' : ∀ x ∈ ends, x.net.index < (nets.modify e.net.index fun _ => n').size := by
        intro x hx
        rw [Arena.size_modify]
        exact hrest x hx
      simp only [Arena.set?_of_get? hn n', Option.bind_eq_bind, Option.bind_some, ih hrest']
      rfl

/-- Releasing finds every net, too. -/
theorem unbindAll?_eq {ends : List NetEnd} {nets : Arena Net}
    (hin : ∀ e ∈ ends, e.net.index < nets.size) :
    unbindAll? ends nets = some (unbindAll ends nets) := by
  induction ends generalizing nets with
  | nil => rfl
  | cons e ends ih =>
    obtain ⟨hfirst, hrest⟩ := List.forall_mem_cons.1 hin
    obtain ⟨n, hn⟩ := Arena.exists_get? hfirst
    have hrest' : ∀ x ∈ ends,
        x.net.index < (nets.modify e.net.index fun m => m.unbind e.slot).size := by
      intro x hx
      rw [Arena.size_modify]
      exact hrest x hx
    -- taking the net out and putting it back released is releasing it in its place
    have hfound : (do nets.set? e.net.index ((← nets.get? e.net.index).unbind e.slot)) =
        some (nets.modify e.net.index fun m => m.unbind e.slot) := by
      rw [hn, Option.bind_eq_bind, Option.bind_some, Arena.set?_of_get? hn,
        Arena.modify_eq_of_get? hn fun m => m.unbind e.slot]
    rw [unbindAll?, List.foldlM_cons, hfound, Option.bind_eq_bind, Option.bind_some]
    exact ih hrest'

/-! ### Adding an instance -/

section Adding

variable {c : Chip} {d : Component} {inputs outputs : List NetId}

/-- An end is held by the outside, by the instance that is being added, or by one that has a
name. -/
theorem Named.conflictError?_eq (h : c.Named) (hwired : c.Wired)
    (hadm : c.Admissible d inputs outputs) {e : NetEnd} {conflict : SlotConflict}
    (hrefused : (c.bindingFor inputs outputs).refused = some (e, conflict)) :
    c.conflictError? ⟨c.instances.next⟩ e conflict =
      some (c.conflictError ⟨c.instances.next⟩ e conflict) := by
  obtain ⟨before, after, n, hsplit, -, -, hn, hholder, -, -⟩ :=
    (refused_bindAll_eq_some_iff _ hadm.endsOf_exist).1 hrefused
  -- of the three holders only an instance has a name that has to be looked up
  have htext : c.holderText? ⟨c.instances.next⟩ conflict.holder =
      some (c.holderText ⟨c.instances.next⟩ conflict.holder) := by
    cases hcase : conflict.holder with
    | external => rfl
    | «instance» i =>
      by_cases hi : i = ⟨c.instances.next⟩
      · rw [holderText?, if_pos hi, holderText, if_pos hi]
      · -- only an instance of the chip can have held the end before the call
        have hheld : n.endpoint e.slot = some (.instance ⟨i.index⟩) := by
          rw [hcase, holderAfter] at hholder
          split at hholder
          · cases hholder
            exact absurd rfl hi
          · exact hholder
        obtain ⟨inst, hinst, -⟩ := (hwired.holder_iff hn e.slot i.index).1 hheld
        have hname : c.instanceName? i = some (c.instanceName i) := h.instanceName?_eq hinst
        rw [holderText?, if_neg hi, holderText, if_neg hi, hname]
        rfl
  rw [conflictError?, h.netName?_eq (Arena.lt_size_of_get? hn), htext]
  rfl

/-- **An instance is added by position without a look-up going wrong**, whatever is asked for. -/
theorem Named.instantiate?_eq (h : c.Named) (hwired : c.Wired) (d : Component)
    (inputs outputs : List NetId) :
    c.instantiate? d inputs outputs = some (c.instantiate d inputs outputs) := by
  unfold instantiate? instantiate
  cases hrequest : c.requestError? d inputs outputs with
  | some e => rfl
  | none =>
    have hadm := requestError?_eq_none_iff.1 hrequest
    have hstop :=
      stopped_bindAll ⟨c.instances.next⟩ (endsOf inputs outputs) c.nets hadm.endsOf_exist
    -- what has been bound are ends of nets of the chip, and still is
    have hbound : ∀ e ∈ (c.bindingFor inputs outputs).bound, e.net.index < c.nets.size := by
      intro e he
      obtain ⟨n, hn, -⟩ := hstop.wasOpen e he
      exact Arena.lt_size_of_get? hn
    -- the loop has neither added nets nor taken any away
    have hreleased : ∀ e ∈ (c.bindingFor inputs outputs).bound.reverse,
        e.net.index < (c.bindingFor inputs outputs).nets.size := by
      intro e he
      rw [bindingFor, hstop.passes.size_eq]
      exact hbound e (List.mem_reverse.1 he)
    have hevents := h.boundEvents?_eq ⟨c.instances.next⟩ hbound
    have hrollback := unbindAll?_eq hreleased
    unfold bindingFor at hevents hrollback
    simp only [bindAll?_eq _ hadm.endsOf_exist, hevents, Option.bind_eq_bind, Option.bind_some]
    cases hrefused : (bindAll ⟨c.instances.next⟩ (endsOf inputs outputs) c.nets).refused with
    | none => rfl
    | some refusal =>
      -- the error has to name a net and a holder, and the rollback has to find its nets
      obtain ⟨e, conflict⟩ := refusal
      have herror := h.conflictError?_eq hwired hadm hrefused
      simp only [herror, hrollback, Option.bind_some]
      rfl

end Adding

/-! ### Connections by name -/

namespace PortMap

variable {d : Component} {m : PortMap}

/-- The port that is found has its place. -/
theorem Fits.connect?_eq (h : m.Fits d) (port : String) (net : NetId) :
    m.connect? d port net = some (m.connect d port net) := by
  unfold connect? connect
  cases hfound : d.findPort? port with
  | none => rfl
  | some position =>
    obtain ⟨dir, i⟩ := position
    -- the map has one place for each port of the component
    have hi : i < (m.ofDirection dir).length := h dir ▸ lt_length_of_findPort? hfound
    simp only [List.getElem?_eq_getElem hi, Option.map_some, isGiven, Option.join_some]

/-- A connection does not change how many places there are. -/
theorem Fits.connect (h : m.Fits d) {m' : PortMap} {port : String} {net : NetId}
    (hok : m.connect d port net = .ok m') : m'.Fits d := by
  unfold PortMap.connect at hok
  split at hok
  · cases hok
  · split at hok
    · cases hok
    · cases hok
      exact h.give _ _ _

/-- Every port of every connection has its place. -/
theorem Fits.connectAll?_eq (h : m.Fits d) (connections : List (String × NetId)) :
    connectAll? d connections m = some (connectAll d connections m) := by
  -- the map varies, and fits the component all the time
  induction connections generalizing m with
  | nil => rfl
  | cons x connections ih =>
    obtain ⟨port, net⟩ := x
    rw [connectAll?, connectAll, h.connect?_eq, Option.bind_eq_bind, Option.bind_some]
    cases hconnect : m.connect d port net with
    | error e => rfl
    | ok m' => exact ih (h.connect hconnect)

end PortMap

/-- No look-up goes wrong while the ports are given their nets. -/
theorem placePorts?_eq (d : Component) (connections : List (String × NetId)) :
    placePorts? d connections = some (placePorts d connections) := by
  unfold placePorts? placePorts
  rw [(PortMap.fits_empty d).connectAll?_eq, Option.bind_eq_bind, Option.bind_some]
  cases PortMap.connectAll d connections (.empty d) with
  | error e => rfl
  | ok m => rfl

/-- **An instance is added by name without a look-up going wrong**, whatever is asked for. -/
theorem Named.instantiateByName?_eq {c : Chip} (h : c.Named) (hwired : c.Wired) (d : Component)
    (connections : List (String × NetId)) :
    c.instantiateByName? d connections = some (c.instantiateByName d connections) := by
  unfold instantiateByName? instantiateByName
  rw [placePorts?_eq, Option.bind_eq_bind, Option.bind_some]
  cases placePorts d connections with
  | error e => rfl
  | ok nets => exact h.instantiate?_eq hwired d nets.1 nets.2

end Chip

end Netlist
