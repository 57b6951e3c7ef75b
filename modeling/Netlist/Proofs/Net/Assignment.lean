import Netlist.Proofs.Net.Binding

/-!
# Single assignment

Calls come one after another, and each wants to bind an instance to an end of a net. An end is
assigned once: by the outside before there is any call, or else by the first call on it. Every other
call on the end is refused, names the one who holds it, and leaves the net as it is.

So after any calls the holder of an end is known from the kind of the net and the calls alone
(`NetKind.holder?`), and nothing has to be remembered of how the net got there. `Net.Assigned` says
this of a net; a fresh net has it, one call preserves it (`Assigned.attempt`), and therefore any
number of calls does (`Assigned.attemptAll`). What a further call answers, what is missing and
whether the net is complete is read off from it (`single_assignment`).
-/

namespace Netlist

/-- An instance can be bound to this end of such a net, because the outside does not hold it. -/
def NetKind.Settable (k : NetKind) (s : Slot) : Prop :=
  k.outerEnd? ≠ some s

instance (k : NetKind) (s : Slot) : Decidable (k.Settable s) :=
  inferInstanceAs (Decidable (k.outerEnd? ≠ some s))

/-- A call that is to bind an instance to an end of a net. -/
structure BindCall where
  slot : Slot
  caller : InstanceId
deriving DecidableEq, Repr

/-- The instance of the first call on an end. -/
def firstOn? (s : Slot) (calls : List BindCall) : Option InstanceId :=
  (calls.find? fun c => c.slot = s).map (·.caller)

/-- **Who holds an end after some calls**: the outside, or the instance of the first call on it. -/
def NetKind.holder? (k : NetKind) (calls : List BindCall) (s : Slot) : Option Endpoint :=
  if k.Settable s then (firstOn? s calls).map .instance else some .external

/-! ### One more call -/

section Holders

variable {k : NetKind} {s : Slot} {calls : List BindCall}

theorem firstOn?_eq_none_iff : firstOn? s calls = none ↔ ∀ c ∈ calls, c.slot ≠ s := by
  simp [firstOn?]

/-- One call more is the first on its end only if no call before it was on the end. -/
theorem firstOn?_concat (c : BindCall) : firstOn? s (calls ++ [c]) =
    (firstOn? s calls).or (if c.slot = s then some c.caller else none) := by
  unfold firstOn?
  rw [List.find?_append, Option.map_or]
  by_cases h : c.slot = s
  · rw [if_pos h, List.find?_cons_of_pos (by simpa using h), Option.map_some]
  · rw [if_neg h, List.find?_cons_of_neg (by simpa using h), List.find?_nil, Option.map_none]

/-- Nobody holds an end exactly when it can be set and no call was made on it. -/
theorem holder?_eq_none_iff :
    k.holder? calls s = none ↔ k.Settable s ∧ ∀ c ∈ calls, c.slot ≠ s := by
  unfold NetKind.holder?
  by_cases hs : k.Settable s
  · rw [if_pos hs, Option.map_eq_none_iff, firstOn?_eq_none_iff]
    exact (and_iff_right hs).symm
  · rw [if_neg hs]
    constructor
    · intro h
      cases h
    · intro h
      exact absurd h.1 hs

/-- The first call on an end that can be set takes it. -/
theorem holder?_concat_of_open {c : BindCall} (h : k.holder? calls c.slot = none) (t : Slot) :
    k.holder? (calls ++ [c]) t =
      if t = c.slot then some (.instance c.caller) else k.holder? calls t := by
  unfold NetKind.holder?
  rw [firstOn?_concat]
  by_cases ht : t = c.slot
  · subst ht
    obtain ⟨hs, hnew⟩ := holder?_eq_none_iff.1 h
    rw [if_pos hs, if_pos rfl, if_pos rfl, firstOn?_eq_none_iff.2 hnew]
    rfl
  · rw [if_neg ht, if_neg (Ne.symm ht), Option.or_none]

/-- A call on an end that is held changes no holder. -/
theorem holder?_concat_of_held {c : BindCall} {o : Endpoint}
    (h : k.holder? calls c.slot = some o) (t : Slot) :
    k.holder? (calls ++ [c]) t = k.holder? calls t := by
  unfold NetKind.holder? at h ⊢
  by_cases ht : k.Settable t
  · rw [if_pos ht, if_pos ht, firstOn?_concat]
    by_cases hct : c.slot = t
    · -- the end can be set, so that it is held by the first call on it, and this is an earlier one
      rw [hct, if_pos ht] at h
      obtain ⟨first, hfirst, -⟩ := Option.map_eq_some_iff.1 h
      rw [hfirst, Option.some_or]
    · rw [if_neg hct, Option.or_none]
  · -- the outside holds the end, whatever is called
    rw [if_neg ht, if_neg ht]

end Holders

/-! ### Runs of calls -/

namespace Net

/-- The net after a call; one that is refused leaves it as it is. -/
def attempt (n : Net) (c : BindCall) : Net :=
  match n.bind c.slot c.caller with
  | .ok bound => bound
  | .error _ => n

/-- The net after calls made one after another. -/
def attemptAll (n : Net) (calls : List BindCall) : Net :=
  calls.foldl attempt n

/-- **The net is of this kind, and its ends are assigned by these calls.** -/
structure Assigned (n : Net) (k : NetKind) (calls : List BindCall) : Prop where
  kind_eq : n.kind = k
  endpoint_eq : ∀ s, n.endpoint s = k.holder? calls s

namespace Assigned

variable {n : Net} {k : NetKind} {calls : List BindCall}

/-- A fresh net is assigned by no calls. -/
theorem fresh (id : NetId) (name : Ident) (k : NetKind) : Assigned (fresh id name k) k [] where
  kind_eq := kind_fresh id name k
  endpoint_eq := by
    intro s
    -- no call was made, so the holder is the outside or nobody
    cases k <;> cases s <;> rfl

/-- A call takes an end that nobody holds and can be set, and is refused otherwise. -/
theorem bind_eq (h : Assigned n k calls) (s : Slot) (i : InstanceId) :
    n.bind s i = match k.holder? calls s with
      | none => .ok (n.held s i)
      | some o => .error ⟨k, s, o⟩ := by
  cases ho : k.holder? calls s with
  | none => exact bind_of_endpoint_eq_none i ((h.endpoint_eq s).trans ho)
  | some o => rw [bind_of_endpoint_eq_some i ((h.endpoint_eq s).trans ho), h.kind_eq]

/-- What one call preserves. -/
theorem attempt (h : Assigned n k calls) (c : BindCall) :
    Assigned (n.attempt c) k (calls ++ [c]) := by
  unfold Net.attempt
  rw [h.bind_eq]
  cases ho : k.holder? calls c.slot with
  | none =>
    -- the call is the first on its end, and takes it
    have hopen : n.endpoint c.slot = none := (h.endpoint_eq c.slot).trans ho
    refine ⟨(kind_held ..).trans h.kind_eq, fun t => ?_⟩
    rw [endpoint_held c.caller hopen, holder?_concat_of_open ho, h.endpoint_eq]
  | some o =>
    -- the call is refused, and the holders stay who they are
    refine ⟨h.kind_eq, fun t => ?_⟩
    rw [holder?_concat_of_held ho]
    exact h.endpoint_eq t

/-- What any number of calls preserves. -/
theorem attemptAll (h : Assigned n k calls) (more : List BindCall) :
    Assigned (n.attemptAll more) k (calls ++ more) := by
  -- on the calls still to be made; those already made are carried along by the invariant
  induction more generalizing n calls with
  | nil => rwa [List.append_nil]
  | cons c more ih =>
    have hrest := ih (h.attempt c)
    rwa [List.append_assoc] at hrest

/-- A call succeeds exactly if its end can be set and no call before it was on the end. -/
theorem bind_eq_ok_iff (h : Assigned n k calls) (s : Slot) (i : InstanceId) :
    (∃ bound, n.bind s i = .ok bound) ↔ k.Settable s ∧ ∀ c ∈ calls, c.slot ≠ s := by
  rw [← holder?_eq_none_iff, h.bind_eq]
  cases k.holder? calls s with
  | none => exact iff_of_true ⟨n.held s i, rfl⟩ rfl
  | some o =>
    refine iff_of_false ?_ (Option.some_ne_none o)
    rintro ⟨bound, hbound⟩
    cases hbound

/-- A refused call names the kind of the net, the end and its holder. -/
theorem conflict_eq (h : Assigned n k calls) {s : Slot} {i : InstanceId} {e : SlotConflict}
    (he : n.bind s i = .error e) : e.kind = k ∧ e.slot = s ∧ k.holder? calls s = some e.holder := by
  rw [h.bind_eq] at he
  cases ho : k.holder? calls s with
  | none =>
    rw [ho] at he
    cases he
  | some o =>
    rw [ho] at he
    cases he
    exact ⟨rfl, rfl, rfl⟩

/-- Missing are the ends that can be set and that no call was on. -/
theorem missingSlots_eq (h : Assigned n k calls) :
    n.missingSlots = Slot.all.filter fun s => k.Settable s ∧ ∀ c ∈ calls, c.slot ≠ s := by
  unfold missingSlots
  refine List.filter_congr fun s _ => ?_
  rw [h.endpoint_eq, Bool.eq_iff_iff, Option.isNone_iff_eq_none, holder?_eq_none_iff,
    decide_eq_true_iff]

end Assigned

/-- A call that is refused leaves the net as it is. -/
theorem attempt_of_error {n : Net} {c : BindCall} {e : SlotConflict}
    (h : n.bind c.slot c.caller = .error e) : n.attempt c = n := by
  rw [attempt, h]

/-- Binding an end that nobody holds and opening it again restores the net. -/
theorem exists_bind_unbind (n : Net) (s : Slot) (i : InstanceId) (h : n.endpoint s = none) :
    ∃ bound, n.bind s i = .ok bound ∧ bound.unbind s = n :=
  ⟨n.held s i, bind_of_endpoint_eq_none i h, unbind_held i h⟩

/-- The ends that can be set are those for which the connection has a slot. -/
theorem isSome_slot?_iff (n : Net) (s : Slot) :
    (n.connection.slot? s).isSome = true ↔ n.kind.Settable s := by
  rw [NetKind.Settable, ne_eq, ← endpoint_eq_external_iff, endpoint]
  cases n.connection.slot? s with
  | none => simp
  | some holder => cases holder <;> simp

/-! ### The law -/

/-- **Single assignment.** Let any calls be made on a new net. A further call succeeds exactly if
its end can be set and none of them was on it. If it is refused, the net stays as it is, and the
answer is the kind of the net, the end and its holder: the outside if the end cannot be set,
otherwise the instance of the first call on it. The kind is the one the net was made with; every end
that can be set is held by the instance of the first call on it, every other end by the outside;
what is missing are the ends that can be set and were never asked for, and the net is complete
exactly if there is none. On any net whatever, the ends that can be set are the slots it has, and
binding a free one and opening it again restores the net. -/
theorem single_assignment (id : NetId) (name : Ident) (k : NetKind) (calls : List BindCall) :
    let n := (fresh id name k).attemptAll calls
    (∀ c : BindCall,
      ((∃ bound, n.bind c.slot c.caller = .ok bound) ↔
        k.Settable c.slot ∧ ∀ earlier ∈ calls, earlier.slot ≠ c.slot) ∧
      ∀ e, n.bind c.slot c.caller = .error e →
        n.attempt c = n ∧ e.kind = k ∧ e.slot = c.slot ∧
          (¬ k.Settable c.slot → e.holder = .external) ∧
          (k.Settable c.slot →
            (firstOn? c.slot calls).map .instance = some e.holder)) ∧
    n.kind = k ∧
    (∀ s, k.Settable s → n.endpoint s = (firstOn? s calls).map .instance) ∧
    (∀ s, ¬ k.Settable s → n.endpoint s = some .external) ∧
    n.missingSlots = Slot.all.filter (fun s => k.Settable s ∧ ∀ c ∈ calls, c.slot ≠ s) ∧
    (n.isComplete = true ↔ n.missingSlots = []) ∧
    (∀ (m : Net) (s : Slot), (m.connection.slot? s).isSome = true ↔ m.kind.Settable s) ∧
    ∀ (m : Net) (s : Slot) (i : InstanceId), m.kind.Settable s → m.endpoint s = none →
      ∃ bound, m.bind s i = .ok bound ∧ bound.unbind s = m := by
  intro n
  -- everything below is read off from the invariant, whatever the calls were
  have hassigned : Assigned n k calls := (Assigned.fresh id name k).attemptAll calls
  have hset : ∀ s, k.Settable s → k.holder? calls s = (firstOn? s calls).map .instance :=
    fun _ hs => if_pos hs
  have houter : ∀ s, ¬ k.Settable s → k.holder? calls s = some .external :=
    fun _ hs => if_neg hs
  refine ⟨fun c => ⟨hassigned.bind_eq_ok_iff c.slot c.caller, fun e he => ?_⟩, hassigned.kind_eq,
    fun s hs => (hassigned.endpoint_eq s).trans (hset s hs),
    fun s hs => (hassigned.endpoint_eq s).trans (houter s hs), hassigned.missingSlots_eq,
    isComplete_iff, isSome_slot?_iff, fun m s i _ => exists_bind_unbind m s i⟩
  obtain ⟨hkind, hslot, hholder⟩ := hassigned.conflict_eq he
  refine ⟨attempt_of_error he, hkind, hslot, fun hs => ?_, fun hs => ?_⟩
  · -- the end cannot be set, so the outside holds it
    rw [houter _ hs] at hholder
    exact (Option.some.inj hholder).symm
  · rw [← hset _ hs]
    exact hholder

/-- A boundary input that three calls ask for, two of them for its load: the first of the two keeps
it, the outside keeps the driver, and nothing is missing. -/
theorem single_assignment_contested :
    let n := (fresh ⟨0⟩ ⟨0⟩ .boundaryInput).attemptAll [⟨.driver, ⟨5⟩⟩, ⟨.load, ⟨4⟩⟩, ⟨.load, ⟨6⟩⟩]
    n.bind .load ⟨7⟩ = .error ⟨.boundaryInput, .load, .instance ⟨4⟩⟩ ∧
      n.bind .driver ⟨7⟩ = .error ⟨.boundaryInput, .driver, .external⟩ ∧
      n.attempt ⟨.load, ⟨7⟩⟩ = n ∧ n.endpoint .load = some (.instance ⟨4⟩) ∧
      n.missingSlots = [] ∧ n.isComplete = true := by
  intro n
  obtain ⟨hcall, -, hset, -, hmissing, hcomplete, -⟩ := single_assignment ⟨0⟩ ⟨0⟩ .boundaryInput
    [⟨.driver, ⟨5⟩⟩, ⟨.load, ⟨4⟩⟩, ⟨.load, ⟨6⟩⟩]
  have hload : n.bind .load ⟨7⟩ = .error ⟨.boundaryInput, .load, .instance ⟨4⟩⟩ := rfl
  exact ⟨hload, rfl, ((hcall ⟨.load, ⟨7⟩⟩).2 _ hload).1, hset .load (by decide), hmissing,
    hcomplete.2 hmissing⟩

end Net

end Netlist
