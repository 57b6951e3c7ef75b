import Netlist.Proofs.Chip.Growth

/-!
# When a call succeeds, and what it leaves behind

`Grows` says that a successful call adds something; this file says which calls succeed, and what
each of them adds.

* A net is created exactly when its name is an identifier and none of its three signals is taken
  (`createNet_ok_iff`).
* An instance is added exactly when the request is admissible and its ends are different and open
  (`instantiate_ok_iff`). The condition is about the chip before the call, although the code decides
  it end by end on nets that change under its hands.

The chip after a success is given by `withNet` and `withInstance` with the names that the code
chooses (`createNet_of_ok`, `instantiate_of_ok`).
-/

namespace Netlist.Chip

variable {c : Chip}

/-! ### Nets -/

/-- A net that has been created had a name that could be given, and is added under it. -/
theorem createNet_of_ok {name : String} {kind : NetKind} {id : NetId}
    (h : (c.createNet name kind).outcome = .ok id) :
    (c.createNet name kind).chip = c.withNet name kind ∧ IsIdentifier name ∧
      ∀ s ∈ handshake name, s ∉ c.names.toList := by
  unfold createNet at h ⊢
  cases hname : checkIdentifier name with
  | error e =>
    rw [hname] at h
    cases h
  | ok _ =>
    rw [hname] at h
    cases hclash : c.clash? name with
    | some existing =>
      simp only [hclash] at h
      cases h
    | none => exact ⟨rfl, checkIdentifier_eq_ok_iff.1 hname, clash?_eq_none_iff.1 hclash⟩

/-- A net that is refused is refused for its name, or because one of its signals is taken. -/
theorem createNet_ok_iff {name : String} {kind : NetKind} :
    (∃ id, (c.createNet name kind).outcome = .ok id) ↔
      IsIdentifier name ∧ ∀ s ∈ handshake name, s ∉ c.names.toList := by
  constructor
  · rintro ⟨id, h⟩
    exact (createNet_of_ok h).2
  · rintro ⟨hname, hfree⟩
    -- the call itself says which number it hands out
    refine ⟨⟨c.nets.next⟩, ?_⟩
    unfold createNet
    rw [checkIdentifier_eq_ok_iff.2 hname]
    simp only [clash?_eq_none_iff.2 hfree]
    rfl

/-- An error says which of the two it was. -/
theorem createNet_of_error {name : String} {kind : NetKind} {e : NetlistError}
    (h : (c.createNet name kind).outcome = .error e) :
    (¬ IsIdentifier name ∧ ∃ reason, e = .invalidName name reason) ∨
      ∃ s ∈ handshake name, s ∈ c.names.toList ∧ e = .duplicateName name s := by
  unfold createNet at h
  cases hname : checkIdentifier name with
  | error e' =>
    rw [hname] at h
    obtain rfl : e' = e := Except.error.inj h
    -- the check has failed, and it passes all identifiers
    have hflaw : ¬ IsIdentifier name := by
      intro hvalid
      rw [checkIdentifier_eq_ok_iff.2 hvalid] at hname
      cases hname
    refine Or.inl ⟨hflaw, ?_⟩
    unfold checkIdentifier at hname
    split at hname
    · cases hname
    · exact ⟨_, (Except.error.inj hname).symm⟩
  | ok _ =>
    rw [hname] at h
    cases hclash : c.clash? name with
    | none =>
      simp only [hclash] at h
      cases h
    | some s =>
      simp only [hclash] at h
      obtain rfl : NetlistError.duplicateName name s = e := Except.error.inj h
      -- the signal that is named is one that the search has found taken
      have htaken : c.names.isTaken s = true := List.find?_some hclash
      exact Or.inr ⟨s, List.mem_of_find?_eq_some hclash, by simpa using htaken, rfl⟩

/-! ### Instances -/

/-- A request that can be carried out. -/
structure Feasible (c : Chip) (d : Component) (inputs outputs : List NetId) : Prop where
  admissible : c.Admissible d inputs outputs
  /-- No end is asked for twice. -/
  nodup : (endsOf inputs outputs).Nodup
  isOpen : ∀ e ∈ endsOf inputs outputs, IsOpen c.nets e

/-- An instance that has been added was asked for feasibly, and its ends, all of them, have been
passed to it. -/
theorem instantiate_of_ok {d : Component} {inputs outputs : List NetId} {id : InstanceId}
    (h : (c.instantiate d inputs outputs).outcome = .ok id) :
    c.Feasible d inputs outputs ∧ ∃ nets,
      Passes ⟨c.instances.next⟩ (endsOf inputs outputs) c.nets nets ∧
      (c.instantiate d inputs outputs).chip =
        c.withInstance (c.nextInstanceName d) d inputs outputs nets := by
  cases hrequest : c.requestError? d inputs outputs with
  | some e =>
    rw [instantiate_of_requestError hrequest] at h
    cases h
  | none =>
    have hadm := requestError?_eq_none_iff.1 hrequest
    cases hrefused : (c.bindingFor inputs outputs).refused with
    | some refusal =>
      rw [(instantiate_of_refused hadm hrefused).1] at h
      cases h
    | none =>
      -- the loop was not stopped, so what is true of the bound ends is true of all
      have hstop :=
        stopped_bindAll ⟨c.instances.next⟩ (endsOf inputs outputs) c.nets hadm.endsOf_exist
      have hall := hstop.finished hrefused
      refine ⟨⟨hadm, hall ▸ hstop.nodup, fun e he => hstop.wasOpen e (hall.symm ▸ he)⟩,
        (c.bindingFor inputs outputs).nets, ?_, (instantiate_of_bound hadm hrefused).2⟩
      have hpasses := hstop.passes
      rwa [hall] at hpasses

/-- A feasible request gets the next number. -/
theorem Feasible.outcome_eq {d : Component} {inputs outputs : List NetId}
    (h : c.Feasible d inputs outputs) :
    (c.instantiate d inputs outputs).outcome = .ok ⟨c.instances.next⟩ :=
  (instantiate_of_bound h.admissible
    (refused_bindAll_eq_none ⟨c.instances.next⟩ h.nodup h.isOpen)).1

/-- **An instance is added exactly when its request is feasible.** -/
theorem instantiate_ok_iff {d : Component} {inputs outputs : List NetId} :
    (∃ id, (c.instantiate d inputs outputs).outcome = .ok id) ↔ c.Feasible d inputs outputs := by
  constructor
  · rintro ⟨id, h⟩
    exact (instantiate_of_ok h).1
  · intro h
    exact ⟨_, h.outcome_eq⟩

/-- By name, an instance is added when every port has its net and the request by position is carried
out. -/
theorem instantiateByName_of_ok {d : Component} {connections : List (String × NetId)}
    {id : InstanceId} (h : (c.instantiateByName d connections).outcome = .ok id) :
    ∃ inputs outputs, placePorts d connections = .ok (inputs, outputs) ∧
      c.instantiateByName d connections = c.instantiate d inputs outputs := by
  unfold instantiateByName at h ⊢
  cases hplaced : placePorts d connections with
  | error e =>
    rw [hplaced] at h
    cases h
  | ok nets => exact ⟨nets.1, nets.2, rfl, rfl⟩

end Netlist.Chip
