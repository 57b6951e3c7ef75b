import Netlist.Manifest.Load
import Netlist.Proofs.Answers
import Netlist.Proofs.Toml.Keys

/-!
# The keys of a manifest

A declared instance may connect nets to ports by name, and its declaration is read of a table. As no
key comes twice in a table (`Toml.parse?_wellKeyed`), no port is connected twice in a manifest that
loads (`Manifest.namesPortsOnce_of_ofText`). The readers of records are gone through from the inside
out: `Reads` says what they make of values without repeated keys.
-/

namespace Netlist

/-- The `connect` of the declaration names no port twice. -/
def InstancePlan.NamesPortsOnce (p : InstancePlan) : Prop :=
  ∀ connections, p.connect = some connections → (connections.map Prod.fst).Nodup

namespace Manifest

open Toml (Value Record ShapeError Check Table)

/-! ### Records -/

/-- Values without repeated keys are read as what `Q` says. -/
def Reads {α : Type} (Q : α → Prop) (read : Value → Except ShapeError α) : Prop :=
  ∀ v a, v.WellKeyed → read v = .ok a → Q a

section Reading

variable {α : Type} {Q : α → Prop}

/-- A record that is read of a value without repeated keys has such values in its fields. -/
theorem entries_wellKeyed_of_ofValue {name : String} {fields : List String} {v : Value} {r : Record}
    (hv : v.WellKeyed) (h : Record.ofValue name fields v = .ok r) :
    ∀ e ∈ r.entries, e.2.WellKeyed := by
  unfold Record.ofValue at h
  split at h
  · next items =>
    cases h
    cases hv with
    -- an array is read as a record field by field
    | array hitems => exact fun e he => hitems e.2 (List.of_mem_zip he).2
  · split at h
    · next entries hentries =>
      cases h
      cases hv with
      | table nodup values =>
        obtain rfl : _ = entries := Option.some.inj hentries
        exact values
      -- a date is read like a table with a single key
      | datetime d =>
        obtain rfl : _ = entries := Option.some.inj hentries
        exact List.forall_mem_singleton.2 (.string _)
      | _ => cases hentries
    · cases h

/-- For a record it is enough to look at how its fields are read. -/
theorem reads_readRecord {name : String} {checks : List (String × Check)}
    {read : Record → Except ShapeError α}
    (hread : ∀ r a, (∀ e ∈ r.entries, e.2.WellKeyed) → read r = .ok a → Q a) :
    Reads Q (readRecord name checks read) := by
  intro v a hv h
  obtain ⟨r, hr, h⟩ := exists_of_bind_eq_ok h
  obtain ⟨u, -, h⟩ := exists_of_bind_eq_ok h
  exact hread r a (entries_wellKeyed_of_ofValue hv hr) h

/-- A field that need not be there has its default or what is read. -/
theorem Reads.withDefault {r : Record} (hr : ∀ e ∈ r.entries, e.2.WellKeyed) {field : String}
    {default a : α} (hdefault : Q default) {read : Value → Except ShapeError α} (h : Reads Q read)
    (ha : r.withDefault field default read = .ok a) : Q a := by
  unfold Record.withDefault at ha
  split at ha
  · next v hv => exact h v a (hr _ (Toml.Items.mem_of_lookup hv)) ha
  · cases ha
    exact hdefault

/-- A field that may be missing has what is read, if it has something. -/
theorem Reads.optional {r : Record} (hr : ∀ e ∈ r.entries, e.2.WellKeyed) {field : String}
    {read : Value → Except ShapeError α} (h : Reads Q read) {x : Option α}
    (hx : r.optional field read = .ok x) : ∀ a, x = some a → Q a := by
  have hsome : Reads (fun x : Option α => ∀ a, x = some a → Q a) fun v => (read v).map some := by
    intro v x hv hmap
    dsimp only at hmap
    cases hread : read v with
    | error e =>
      rw [hread] at hmap
      cases hmap
    | ok a =>
      rw [hread] at hmap
      cases hmap
      rintro _ ⟨⟩
      exact h v a hv hread
  exact hsome.withDefault hr (fun _ ha => nomatch ha) hx

/-- In a list every element is what is read of it. -/
theorem Reads.asListOf {read : Value → Except ShapeError α} (h : Reads Q read) :
    Reads (fun as : List α => ∀ a ∈ as, Q a) (Value.asListOf read) := by
  intro v as hv has
  cases hv with
  | array hitems =>
    have hread := exists_of_mapM_eq_ok has
    intro a ha
    obtain ⟨k, hk, rfl⟩ := List.mem_iff_getElem.1 ha
    have hk' : k < _ := hread.length_eq ▸ hk
    exact h _ _ (hitems _ (List.getElem_mem hk')) (hread.get hk' hk)
  | _ => cases has

end Reading

/-- **The keys of a map differ.** Sorting them does not bring any of them up twice. -/
theorem reads_asStringMap :
    Reads (fun connections => (connections.map Prod.fst).Nodup) Value.asStringMap := by
  intro v connections hv h
  unfold Value.asStringMap at h
  have hentries : ∀ entries, v.entries? = some entries → (entries.map Prod.fst).Nodup := by
    intro entries hentries
    cases hv with
    | table nodup values =>
      obtain rfl : _ = entries := Option.some.inj hentries
      exact nodup
    | datetime d =>
      obtain rfl : _ = entries := Option.some.inj hentries
      exact List.nodup_singleton _
    | _ => cases hentries
  split at h
  · cases h
  · next entries hsome =>
    obtain ⟨texts, htexts, h⟩ := exists_of_bind_eq_ok h
    cases h
    -- the texts are read under the keys of the table
    have hkeys : texts.map Prod.fst = entries.map Prod.fst := by
      have hread := exists_of_mapM_eq_ok htexts
      refine List.ext_getElem (by simp [hread.length_eq]) fun k hk hk' => ?_
      rw [List.length_map] at hk hk'
      obtain ⟨text, -, hpair⟩ := exists_of_bind_eq_ok (hread.get hk' hk)
      have heq : (entries[k].1, text) = texts[k] := Except.ok.inj hpair
      rw [List.getElem_map, List.getElem_map, ← heq]
    have hsorted : ((texts.mergeSort fun a b => a.1 ≤ b.1).map Prod.fst).Perm
        (entries.map Prod.fst) :=
      hkeys ▸ (List.mergeSort_perm texts _).map Prod.fst
    exact hsorted.nodup_iff.2 (hentries entries hsome)

/-! ### Manifests -/

/-- A declared instance that is read names no port twice. -/
theorem reads_instanceOf : Reads InstancePlan.NamesPortsOnce instanceOf := by
  refine reads_readRecord fun r p hr h => ?_
  obtain ⟨component, -, h⟩ := exists_of_bind_eq_ok h
  obtain ⟨inputs, -, h⟩ := exists_of_bind_eq_ok h
  obtain ⟨outputs, -, h⟩ := exists_of_bind_eq_ok h
  obtain ⟨connect, hconnect, h⟩ := exists_of_bind_eq_ok h
  cases h
  exact reads_asStringMap.optional hr hconnect

/-- None of the declared instances of a chip that is read names a port twice. -/
theorem reads_chipOf : Reads (fun plan => ∀ p ∈ plan.instances, p.NamesPortsOnce) chipOf := by
  refine reads_readRecord fun r plan hr h => ?_
  obtain ⟨inputs, -, h⟩ := exists_of_bind_eq_ok h
  obtain ⟨outputs, -, h⟩ := exists_of_bind_eq_ok h
  obtain ⟨wires, -, h⟩ := exists_of_bind_eq_ok h
  obtain ⟨instances, hinstances, h⟩ := exists_of_bind_eq_ok h
  cases h
  exact reads_instanceOf.asListOf.withDefault hr (List.forall_mem_nil _) hinstances

/-- None of the declared instances of a manifest that is read names a port twice. -/
theorem reads_ofValue : Reads (fun m => ∀ p ∈ m.chip.instances, p.NamesPortsOnce) ofValue := by
  refine reads_readRecord fun r m hr h => ?_
  obtain ⟨project, -, h⟩ := exists_of_bind_eq_ok h
  obtain ⟨output, -, h⟩ := exists_of_bind_eq_ok h
  obtain ⟨paths, -, h⟩ := exists_of_bind_eq_ok h
  obtain ⟨chip, hchip, h⟩ := exists_of_bind_eq_ok h
  cases h
  -- a manifest without a chip has the default chip, and it declares no instance
  have hdefault : ∀ p ∈ defaultChip.instances, p.NamesPortsOnce :=
    List.forall_mem_nil _
  exact Reads.withDefault (Q := fun plan : ChipPlan => ∀ p ∈ plan.instances, p.NamesPortsOnce)
    hr hdefault reads_chipOf hchip

/-- A manifest that loads has been read of a table, and has no problem. -/
theorem of_ofText {text : String} {m : Manifest} (h : ofText text = .ok m) :
    (∃ t, Toml.parse? text = some t ∧ ofValue (.table t) = .ok m) ∧ m.problem? = none := by
  obtain ⟨m', hdecode, h⟩ := exists_of_bind_eq_ok h
  cases hproblem : m'.problem? with
  | some e =>
    rw [hproblem] at h
    cases h
  | none =>
    rw [hproblem] at h
    obtain rfl : m' = m := Except.ok.inj h
    refine ⟨?_, hproblem⟩
    unfold decode at hdecode
    split at hdecode
    · cases hdecode
    · next t ht =>
      split at hdecode
      · cases hdecode
      · next hread =>
        cases hdecode
        exact ⟨t, ht, hread⟩

/-- **In a manifest that loads, no declared instance connects a port twice.** -/
theorem namesPortsOnce_of_ofText {text : String} {m : Manifest} (h : ofText text = .ok m) :
    ∀ p ∈ m.chip.instances, p.NamesPortsOnce := by
  obtain ⟨⟨t, ht, hread⟩, -⟩ := of_ofText h
  exact reads_ofValue _ m (Toml.parse?_wellKeyed ht) hread

end Manifest

end Netlist
