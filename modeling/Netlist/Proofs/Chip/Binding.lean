import Netlist.Chip.Instances
import Netlist.Proofs.Net.Binding

/-!
# The bind loop and its rollback

An instance is added by binding a list of net ends one after the other (`Chip.bindAll`), and the
loop may stop at any of them. This file says in what state it leaves the nets, wherever it stops.

* `Passes id ends before after` relates two arenas of nets: the second is the first with exactly
  the given ends passed to one instance. Names, kinds and all other ends are as before.
* `stopped_bindAll`: the loop passes to the instance the ends it reports as bound, each of which
  was open and is bound once; they are all of the list, or else those in front of the end that
  refused.
* `unbindAll_bindAll`: releasing the reported ends, the last one first, restores the nets exactly.

The rollback needs no hypothesis about the list: an end that is bound a second time is refused, so
an end that was bound by the loop is always one that nobody held before it.
-/

namespace Netlist.Chip

/-- The net exists and nobody holds this end of it. -/
def IsOpen (nets : Arena Net) (e : NetEnd) : Prop :=
  ∃ n, nets.get? e.net.index = some n ∧ n.endpoint e.slot = none

/-- **Passing ends to an instance.** `after` has the nets of `before`, with the same names and
kinds; the ends in the list are held by the instance, all others by whoever held them before. -/
structure Passes (id : InstanceId) (ends : List NetEnd) (before after : Arena Net) : Prop where
  size_eq : after.size = before.size
  get : ∀ {k n}, before.get? k = some n → ∃ n', after.get? k = some n' ∧ n'.id = n.id ∧
    n'.name = n.name ∧ n'.kind = n.kind ∧
    ∀ s, n'.endpoint s = if (⟨⟨k⟩, s⟩ : NetEnd) ∈ ends then some (.instance id) else n.endpoint s

namespace Passes

variable {id : InstanceId} {ends ends' : List NetEnd} {nets nets' nets'' : Arena Net}

/-- Nothing has been passed yet. -/
theorem nil (id : InstanceId) (nets : Arena Net) : Passes id [] nets nets where
  size_eq := rfl
  get := fun {_ n} h => ⟨n, h, rfl, rfl, rfl, fun _ => (if_neg List.not_mem_nil).symm⟩

/-- Filling one open end passes that end. -/
theorem single (id : InstanceId) {e : NetEnd} {n : Net} (hget : nets.get? e.net.index = some n)
    (hopen : n.endpoint e.slot = none) :
    Passes id [e] nets (nets.modify e.net.index fun _ => n.held e.slot id) where
  size_eq := Arena.size_modify ..
  get := by
    obtain ⟨⟨i⟩, t⟩ := e
    intro k m hk
    -- the net of the end, and any other net
    rw [Arena.get?_modify]
    by_cases hik : i = k
    · subst hik
      obtain rfl : n = m := Option.some.inj (hget.symm.trans hk)
      refine ⟨n.held t id, by simp [hk], rfl, rfl, Net.kind_held .., fun s => ?_⟩
      rw [Net.endpoint_held id hopen]
      simp
    · -- in another net no end is the one that is filled
      have hne : ∀ s, (⟨⟨k⟩, s⟩ : NetEnd) ∉ [(⟨⟨i⟩, t⟩ : NetEnd)] := by
        intro s hmem
        simp only [List.mem_singleton, NetEnd.mk.injEq, NetId.mk.injEq] at hmem
        exact hik hmem.1.symm
      exact ⟨m, by rw [if_neg hik, hk], rfl, rfl, rfl, fun s => (if_neg (hne s)).symm⟩

/-- What is passed in two stretches is passed in one. -/
theorem trans (h : Passes id ends nets nets') (h' : Passes id ends' nets' nets'') :
    Passes id (ends ++ ends') nets nets'' where
  size_eq := h'.size_eq.trans h.size_eq
  get := by
    intro k n hk
    obtain ⟨n', hk', hid, hname, hkind, hends⟩ := h.get hk
    obtain ⟨n'', hk'', hid', hname', hkind', hends'⟩ := h'.get hk'
    refine ⟨n'', hk'', hid'.trans hid, hname'.trans hname, hkind'.trans hkind, fun s => ?_⟩
    -- an end is held by the instance if it was passed late or early
    rw [hends', hends]
    by_cases hlater : (⟨⟨k⟩, s⟩ : NetEnd) ∈ ends'
    · rw [if_pos hlater, if_pos (List.mem_append_right _ hlater)]
    · rw [if_neg hlater]
      by_cases hsooner : (⟨⟨k⟩, s⟩ : NetEnd) ∈ ends
      · rw [if_pos hsooner, if_pos (List.mem_append_left _ hsooner)]
      · rw [if_neg hsooner, if_neg fun hmem => (List.mem_append.1 hmem).elim hsooner hlater]

/-- Every net afterwards comes from a net before. -/
theorem get_back (h : Passes id ends nets nets') {k : Nat} {n' : Net}
    (hk : nets'.get? k = some n') :
    ∃ n, nets.get? k = some n ∧ n'.id = n.id ∧ n'.name = n.name ∧ n'.kind = n.kind ∧
      ∀ s, n'.endpoint s =
        if (⟨⟨k⟩, s⟩ : NetEnd) ∈ ends then some (.instance id) else n.endpoint s := by
  -- the two arenas have the same numbers, so there was a net at this one
  obtain ⟨n, hn⟩ := Arena.exists_get? (h.size_eq ▸ Arena.lt_size_of_get? hk)
  obtain ⟨m, hm, hrest⟩ := h.get hn
  obtain rfl : m = n' := Option.some.inj (hm.symm.trans hk)
  exact ⟨n, hn, hrest⟩

/-- An end that is still open was open before and has not been passed. -/
theorem isOpen_back (h : Passes id ends nets nets') {e : NetEnd} (ho : IsOpen nets' e) :
    IsOpen nets e ∧ e ∉ ends := by
  obtain ⟨n', hn', hnone⟩ := ho
  obtain ⟨n, hn, -, -, -, hends⟩ := h.get_back hn'
  rw [hends] at hnone
  -- an end that has been passed has a holder and is not open
  by_cases hmem : e ∈ ends
  · rw [if_pos hmem] at hnone
    cases hnone
  · rw [if_neg hmem] at hnone
    exact ⟨⟨n, hn, hnone⟩, hmem⟩

/-- The open ends afterwards are the open ends from before that have not been passed. -/
theorem isOpen_iff (h : Passes id ends nets nets') {e : NetEnd} :
    IsOpen nets' e ↔ IsOpen nets e ∧ e ∉ ends := by
  refine ⟨h.isOpen_back, ?_⟩
  rintro ⟨⟨n, hn, hnone⟩, hmem⟩
  obtain ⟨n', hn', -, -, -, hends⟩ := h.get hn
  exact ⟨n', hn', by rw [hends, if_neg hmem, hnone]⟩

/-- The names and kinds of the nets, in order, are as before. -/
theorem map_eq {α : Type} (h : Passes id ends nets nets') {f : Net → α}
    (hf : ∀ n n' : Net, n'.name = n.name → n'.kind = n.kind → f n' = f n) :
    nets'.toList.map f = nets.toList.map f := by
  refine List.ext_getElem? fun k => ?_
  -- place by place: each net has come from the one in the same place
  rw [List.getElem?_map, List.getElem?_map]
  cases hk : nets.toList[k]? with
  | none =>
    have hle : nets'.toList.length ≤ k :=
      le_of_eq_of_le h.size_eq (List.getElem?_eq_none_iff.1 hk)
    rw [List.getElem?_eq_none hle]
  | some n =>
    obtain ⟨n', hk', -, hname, hkind, -⟩ := h.get hk
    rw [show nets'.toList[k]? = some n' from hk', Option.map_some, Option.map_some,
      hf n n' hname hkind]

end Passes

/-! ### The loop -/

/-- In what state the bind loop may stop. -/
structure Stopped (id : InstanceId) (ends : List NetEnd) (nets : Arena Net) (b : Binding) :
    Prop where
  /-- Exactly the reported ends have been passed. -/
  passes : Passes id b.bound nets b.nets
  nodup : b.bound.Nodup
  wasOpen : ∀ e ∈ b.bound, IsOpen nets e
  /-- Without a refusal the loop has reached the end of the list. -/
  finished : b.refused = none → b.bound = ends
  /-- A refusal comes from the end behind the bound ones, and names its holder of that moment. -/
  refusal : ∀ e conflict, b.refused = some (e, conflict) → ∃ rest n, ends = b.bound ++ e :: rest ∧
    b.nets.get? e.net.index = some n ∧ n.endpoint e.slot = some conflict.holder ∧
    conflict.kind = n.kind ∧ conflict.slot = e.slot

/-- **The bind loop**, on nets that exist. -/
theorem stopped_bindAll (id : InstanceId) (ends : List NetEnd) (nets : Arena Net)
    (hin : ∀ e ∈ ends, e.net.index < nets.size) : Stopped id ends nets (bindAll id ends nets) := by
  -- on the list of ends; the nets vary, because the first bind has changed them
  induction ends generalizing nets with
  | nil =>
    exact ⟨.nil id nets, List.nodup_nil, fun _ h => absurd h List.not_mem_nil, fun _ => rfl,
      fun _ _ h => nomatch h⟩
  | cons e ends ih =>
    obtain ⟨n, hget⟩ := Arena.exists_get? (hin e List.mem_cons_self)
    rw [bindAll]
    simp only [hget]
    cases hend : n.endpoint e.slot with
    | some holder =>
      -- the loop stops at once and has bound nothing
      rw [Net.bind_of_endpoint_eq_some id hend]
      refine ⟨.nil id nets, List.nodup_nil, fun _ h => absurd h List.not_mem_nil,
        fun h => (nomatch h), ?_⟩
      rintro _ _ ⟨⟩
      exact ⟨ends, n, rfl, hget, hend, rfl, rfl⟩
    | none =>
      rw [Net.bind_of_endpoint_eq_none id hend]
      have hfirst := Passes.single id hget hend
      have hrest := ih (nets.modify e.net.index fun _ => n.held e.slot id) fun x hx => by
        rw [Arena.size_modify]
        exact hin x (List.mem_cons_of_mem _ hx)
      -- what the rest of the loop binds was open before `e` was bound, and is not `e`
      have hback :
          ∀ x ∈ (bindAll id ends (nets.modify e.net.index fun _ => n.held e.slot id)).bound,
            IsOpen nets x ∧ x ∉ [e] := fun x hx => hfirst.isOpen_back (hrest.wasOpen x hx)
      refine ⟨hfirst.trans hrest.passes, ?_, ?_, fun h => congrArg (e :: ·) (hrest.finished h), ?_⟩
      · exact List.nodup_cons.2
          ⟨fun hmem => (hback e hmem).2 (List.mem_singleton_self e), hrest.nodup⟩
      · intro x hx
        rcases List.mem_cons.1 hx with rfl | hx
        · exact ⟨n, hget, hend⟩
        · exact (hback x hx).1
      · intro x conflict hx
        obtain ⟨rest, m, hsplit, hm⟩ := hrest.refusal x conflict hx
        exact ⟨rest, m, congrArg (e :: ·) hsplit, hm⟩

/-- The loop runs through when nothing stands in its way: the ends are different and open. -/
theorem refused_bindAll_eq_none (id : InstanceId) {ends : List NetEnd} {nets : Arena Net}
    (hnodup : ends.Nodup) (hopen : ∀ e ∈ ends, IsOpen nets e) :
    (bindAll id ends nets).refused = none := by
  -- the ends that are left stay open and different while the first ones are bound
  induction ends generalizing nets with
  | nil => rfl
  | cons e ends ih =>
    obtain ⟨hnew, hnodup⟩ := List.nodup_cons.1 hnodup
    obtain ⟨n, hget, hend⟩ := hopen e List.mem_cons_self
    rw [bindAll]
    simp only [hget, Net.bind_of_endpoint_eq_none id hend]
    -- only `e` has been filled, and the ends behind it are others
    refine ih hnodup fun x hx => (Passes.single id hget hend).isOpen_iff.2 ⟨?_, fun hxe => ?_⟩
    · exact hopen x (List.mem_cons_of_mem _ hx)
    · exact hnew (List.mem_singleton.1 hxe ▸ hx)

/-! ### The rollback -/

/-- Ends are released one after the other. -/
theorem unbindAll_append (ends ends' : List NetEnd) (nets : Arena Net) :
    unbindAll (ends ++ ends') nets = unbindAll ends' (unbindAll ends nets) :=
  List.foldl_append

/-- **Releasing what was bound, the last end first, restores the nets.** -/
theorem unbindAll_bindAll (id : InstanceId) (ends : List NetEnd) (nets : Arena Net) :
    unbindAll (bindAll id ends nets).bound.reverse (bindAll id ends nets).nets = nets := by
  -- no hypothesis about the ends: the loop itself sees to it that it fills open ends only
  induction ends generalizing nets with
  | nil => rfl
  | cons e ends ih =>
    rw [bindAll]
    cases hget : nets.get? e.net.index with
    | none => exact ih nets
    | some n =>
      cases hend : n.endpoint e.slot with
      | some holder =>
        simp only [Net.bind_of_endpoint_eq_some id hend]
        rfl
      | none =>
        simp only [Net.bind_of_endpoint_eq_none id hend]
        -- the ends behind `e` are released first, and that leaves only the fill of `e` itself
        rw [List.reverse_cons, unbindAll_append, ih]
        change ((nets.modify e.net.index fun _ => n.held e.slot id).modify e.net.index
          fun m => m.unbind e.slot) = nets
        rw [Arena.modify_modify]
        exact Arena.modify_eq_self hget (Net.unbind_held id hend)

end Netlist.Chip
