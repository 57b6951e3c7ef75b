/-!
# Arenas

An arena is a list that only grows at its end: the number of an item is the number of items before
it, and stays its number for good. Items may be replaced in place. `Arena.toList` is the view.
-/

namespace Netlist

/-- Items numbered by the order in which they were added. -/
structure Arena (α : Type) where
  /-- The items, oldest first. -/
  toList : List α
deriving DecidableEq, Repr

namespace Arena

variable {α β : Type}

/-- The arena without items. -/
def empty : Arena α := ⟨[]⟩

instance : Inhabited (Arena α) := ⟨empty⟩

/-- How many items there are. -/
def size (a : Arena α) : Nat :=
  a.toList.length

/-- The number that the next item will get. -/
def next (a : Arena α) : Nat :=
  a.size

/-- Adds an item at the end. -/
def push (a : Arena α) (x : α) : Arena α :=
  ⟨a.toList ++ [x]⟩

/-- The item with the given number. -/
def get? (a : Arena α) (i : Nat) : Option α :=
  a.toList[i]?

/-- Is there an item with the given number? -/
def contains (a : Arena α) (i : Nat) : Bool :=
  i < a.size

/-- Changes the item with the given number, if there is one. -/
def modify (a : Arena α) (i : Nat) (f : α → α) : Arena α :=
  ⟨a.toList.modify i f⟩

/-- Replaces the item with the given number; `none` if there is no such item. -/
def set? (a : Arena α) (i : Nat) (x : α) : Option (Arena α) :=
  if a.contains i then some (a.modify i fun _ => x) else none

/-- Items with their numbers, oldest first. -/
def entries (a : Arena α) : List (Nat × α) :=
  a.toList.zipIdx.map fun (x, i) => (i, x)

@[simp] theorem toList_push (a : Arena α) (x : α) : (a.push x).toList = a.toList ++ [x] := rfl

@[simp] theorem size_push (a : Arena α) (x : α) : (a.push x).size = a.size + 1 := by
  simp [size]

@[simp] theorem toList_modify (a : Arena α) (i : Nat) (f : α → α) :
    (a.modify i f).toList = a.toList.modify i f := rfl

@[simp] theorem size_modify (a : Arena α) (i : Nat) (f : α → α) :
    (a.modify i f).size = a.size := by
  simp [size]

/-- The numbers of an arena are those below its size. -/
theorem contains_iff {a : Arena α} {i : Nat} : a.contains i = true ↔ i < a.size := by
  simp [contains]

/-- Nothing is found exactly under the numbers that no item has. -/
theorem get?_eq_none_iff {a : Arena α} {i : Nat} : a.get? i = none ↔ a.contains i = false := by
  rw [Bool.eq_false_iff, Ne, contains_iff]
  simp [get?, size]

@[simp] theorem get?_empty (i : Nat) : (empty : Arena α).get? i = none := rfl

/-- The new item is found under the number that was the next one, and the others stay. -/
theorem get?_push (a : Arena α) (x : α) (i : Nat) :
    (a.push x).get? i = if i = a.size then some x else a.get? i := by
  -- the old numbers, the new one, and those beyond
  by_cases hlt : i < a.size
  · rw [if_neg (Nat.ne_of_lt hlt)]
    exact List.getElem?_append_left hlt
  · by_cases heq : i = a.size
    · rw [if_pos heq, heq]
      exact List.getElem?_concat_length
    · rw [if_neg heq]
      have hle : a.size + 1 ≤ i := by omega
      have hnew : (a.push x).get? i = none :=
        List.getElem?_eq_none (by rwa [toList_push, List.length_append])
      rw [hnew]
      exact (List.getElem?_eq_none (Nat.le_of_not_lt hlt)).symm

/-- Changing an item changes what is found under its number, and nothing else. -/
theorem get?_modify (a : Arena α) (i j : Nat) (f : α → α) :
    (a.modify i f).get? j = if i = j then (a.get? j).map f else a.get? j := by
  simp only [get?, toList_modify, List.getElem?_modify]
  split
  · rfl
  · exact Option.map_id' ..

/-- What is found after a push is the new item, or was there before. -/
theorem get?_push_eq_some {a : Arena α} {x y : α} {i : Nat} :
    (a.push x).get? i = some y ↔ (i = a.size ∧ y = x) ∨ a.get? i = some y := by
  rw [get?_push]
  by_cases hlast : i = a.size
  · rw [if_pos hlast, Option.some.injEq]
    have hnone : a.get? i = none := List.getElem?_eq_none (Nat.le_of_eq hlast.symm)
    rw [hnone]
    exact ⟨fun h => Or.inl ⟨hlast, h.symm⟩, fun h => h.elim (·.2.symm) (nomatch ·)⟩
  · rw [if_neg hlast]
    exact ⟨Or.inr, fun h => h.elim (fun h => absurd h.1 hlast) id⟩

/-- An item that is found stands below the size of the arena. -/
theorem lt_size_of_get? {a : Arena α} {i : Nat} {x : α} (h : a.get? i = some x) : i < a.size :=
  (List.getElem?_eq_some_iff.1 h).1

/-- Every number below the size has an item. -/
theorem exists_get? {a : Arena α} {i : Nat} (h : i < a.size) : ∃ x, a.get? i = some x :=
  ⟨_, List.getElem?_eq_getElem h⟩

/-- The items are what is found under some number. -/
theorem mem_toList_iff {a : Arena α} {x : α} : x ∈ a.toList ↔ ∃ i, a.get? i = some x :=
  List.mem_iff_getElem?

/-- Putting an item in the place where it stands already changes nothing. -/
theorem modify_eq_self {a : Arena α} {i : Nat} {f : α → α} {x : α} (hx : a.get? i = some x)
    (hf : f x = x) : a.modify i f = a := by
  obtain ⟨xs⟩ := a
  refine congrArg Arena.mk (List.ext_getElem? fun j => ?_)
  -- place by place; only the one at `i` is looked at twice
  rw [List.getElem?_modify]
  by_cases hij : i = j
  · subst hij
    rw [show xs[i]? = some x from hx]
    simp [hf]
  · simp [hij]

/-- Two changes of the same item are one change. -/
theorem modify_modify (a : Arena α) (i : Nat) (f g : α → α) :
    (a.modify i f).modify i g = a.modify i (g ∘ f) :=
  congrArg Arena.mk (List.modify_modify_eq f g i a.toList)

end Arena

end Netlist
