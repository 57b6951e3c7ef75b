import Mathlib.Data.List.Forall2

/-!
# Steps that can fail

Reading a record and following a path are rows of steps, each of which has an answer or an error.
There is an answer in the end when every step has one.

Looking a key up is such a step. In a list of pairs without a repeated key, it has an answer exactly
for the keys that are there, wherever they stand.
-/

namespace Netlist

/-- Two steps have an answer when both of them have one. -/
theorem bind_eq_ok_iff {ε α β : Type} {x : Except ε α} {f : α → Except ε β} {b : β} :
    x >>= f = .ok b ↔ ∃ a, x = .ok a ∧ f a = .ok b := by
  cases x with
  | error e => exact ⟨(nomatch ·), fun ⟨_, h, _⟩ => (nomatch h)⟩
  | ok a => exact ⟨fun h => ⟨a, rfl, h⟩, fun ⟨_, ha, hb⟩ => Except.ok.inj ha ▸ hb⟩

/-- Of two steps that have an answer, both have one. -/
theorem exists_of_bind_eq_ok {ε α β : Type} {x : Except ε α} {f : α → Except ε β} {b : β}
    (h : x >>= f = .ok b) : ∃ a, x = .ok a ∧ f a = .ok b :=
  bind_eq_ok_iff.1 h

/-- A list is read when each of its items is. -/
theorem mapM_eq_ok_iff {ε α β : Type} {f : α → Except ε β} {xs : List α} {ys : List β} :
    xs.mapM f = .ok ys ↔ List.Forall₂ (fun x y => f x = .ok y) xs ys := by
  induction xs generalizing ys with
  | nil =>
    rw [List.mapM_nil, List.forall₂_nil_left_iff]
    exact ⟨fun h => (Except.ok.inj h).symm, fun h => congrArg _ h.symm⟩
  | cons x xs ih =>
    rw [List.mapM_cons, bind_eq_ok_iff, List.forall₂_cons_left_iff]
    refine exists_congr fun y => ?_
    rw [bind_eq_ok_iff, ← exists_and_left]
    simp only [ih, pure, Except.pure, Except.ok.injEq, eq_comm]

/-- What is read of a list is read of its items. -/
theorem exists_of_mapM_eq_ok {ε α β : Type} {f : α → Except ε β} {xs : List α} {ys : List β}
    (h : xs.mapM f = .ok ys) : List.Forall₂ (fun x y => f x = .ok y) xs ys :=
  mapM_eq_ok_iff.1 h

/-- Reading each entry of a list that has been written entry by entry. -/
theorem mapM_map_eq_some {α β : Type} {write : α → β} {read : β → Option α} {l : List α}
    (h : ∀ x ∈ l, read (write x) = some x) : (l.map write).mapM read = some l := by
  induction l with
  | nil => rfl
  | cons x l ih =>
    rw [List.map_cons, List.mapM_cons, h x List.mem_cons_self,
      ih fun y hy => h y (List.mem_cons_of_mem _ hy)]
    rfl

/-- Looking up what items are paired with is searching for the item with that key. -/
theorem lookup_map_eq_map_find? {α β γ : Type} [BEq β] [LawfulBEq β] (key : α → β) (f : α → γ)
    (l : List α) (b : β) :
    (l.map fun x => (key x, f x)).lookup b = (l.find? fun x => key x == b).map f := by
  induction l with
  | nil => rfl
  | cons x l ih =>
    rw [List.map_cons, List.lookup_cons, List.find?_cons, BEq.comm, ih]
    cases key x == b <;> rfl

/-- A key that finds nothing is not there. -/
theorem lookup_eq_none_iff_not_mem {α β : Type} [BEq α] [LawfulBEq α] {l : List (α × β)} {a : α} :
    l.lookup a = none ↔ a ∉ l.map Prod.fst := by
  rw [List.lookup_eq_none_iff, List.mem_map, not_exists]
  refine forall_congr' fun x => ?_
  rw [not_and, bne_iff_ne]
  exact imp_congr_right fun _ => ne_comm

/-- Where no key comes twice, a key finds what is paired with it. -/
theorem lookup_eq_some_iff_of_nodup {α β : Type} [BEq α] [LawfulBEq α] {l : List (α × β)}
    (h : (l.map Prod.fst).Nodup) {a : α} {b : β} : l.lookup a = some b ↔ (a, b) ∈ l := by
  rw [List.lookup_eq_some_iff]
  constructor
  · rintro ⟨before, after, rfl, -⟩
    exact List.mem_append_right _ List.mem_cons_self
  · intro hmem
    obtain ⟨before, after, rfl⟩ := List.append_of_mem hmem
    refine ⟨before, after, rfl, fun x hx => ?_⟩
    -- another pair in front with the same key would be a repetition
    rw [List.map_append, List.map_cons] at h
    have hne : x.1 ≠ a :=
      (List.nodup_append.1 h).2.2 x.1 (List.mem_map_of_mem hx) a List.mem_cons_self
    exact bne_iff_ne.2 hne.symm

/-- Where no key comes twice, the order of the pairs makes no difference to what a key finds. -/
theorem lookup_eq_of_perm {α β : Type} [BEq α] [LawfulBEq α] {l l' : List (α × β)}
    (hperm : l.Perm l') (h : (l.map Prod.fst).Nodup) (a : α) : l.lookup a = l'.lookup a := by
  have h' : (l'.map Prod.fst).Nodup := (hperm.map Prod.fst).nodup h
  refine Option.ext fun b => ?_
  rw [lookup_eq_some_iff_of_nodup h, lookup_eq_some_iff_of_nodup h', hperm.mem_iff]

end Netlist
