import Netlist.Id

/-!
# Name tables

The namespace of one module: the names claimed so far, in the order of their claims. A name is
claimed at most once; claiming it again gives the number it already has. `NameTable.toList` is the
view that the other operations are described by.
-/

namespace Netlist

/-- The names claimed so far, oldest first. -/
structure NameTable where
  /-- The claimed names, in the order of their claims. -/
  toList : List String
deriving DecidableEq, Repr

/-- Where no name comes twice, a name is found where it stands. -/
theorem findIdx?_eq_some_of_nodup {xs : List String} (h : xs.Nodup) {i : Nat} {x : String}
    (hx : xs[i]? = some x) : xs.findIdx? (· == x) = some i := by
  obtain ⟨hi, rfl⟩ := List.getElem?_eq_some_iff.1 hx
  refine List.findIdx?_eq_some_iff_getElem.2 ⟨hi, beq_self_eq_true _, fun j hj heq => ?_⟩
  exact List.pairwise_iff_getElem.1 h j i (Nat.lt_trans hj hi) hi hj (eq_of_beq heq)

namespace NameTable

/-- The table in which nothing is claimed. -/
def empty : NameTable := ⟨[]⟩

instance : Inhabited NameTable := ⟨empty⟩

/-- Has the name been claimed? -/
def isTaken (t : NameTable) (name : String) : Bool :=
  t.toList.contains name

/-- The number of a claimed name. -/
def get? (t : NameTable) (name : String) : Option Ident :=
  (t.toList.findIdx? (· == name)).map Ident.mk

/-- The name with the given number. -/
def resolve? (t : NameTable) (id : Ident) : Option String :=
  t.toList[id.index]?

/-- The name with the given number; the empty string if no name has it. -/
def resolve (t : NameTable) (id : Ident) : String :=
  (t.resolve? id).getD ""

/-- How many names are claimed. -/
def size (t : NameTable) : Nat :=
  t.toList.length

/-- The number that the next new name will get. -/
def next (t : NameTable) : Ident :=
  ⟨t.size⟩

/-- **Claims a name.** A new name is appended; a taken one leaves the table as it is. -/
def claim (t : NameTable) (name : String) : NameTable :=
  if t.isTaken name then t else ⟨t.toList ++ [name]⟩

/-- The number of a name once it is claimed. -/
def claimedId (t : NameTable) (name : String) : Ident :=
  (t.get? name).getD t.next

/-- Claims several names, one after the other. -/
def claimAll (t : NameTable) (names : List String) : NameTable :=
  names.foldl claim t

/-- A name is taken when it is one of the claimed names. -/
@[simp] theorem isTaken_iff {t : NameTable} {name : String} :
    t.isTaken name = true ↔ name ∈ t.toList := by
  simp [isTaken]

/-- A new name goes to the end, so that no other number changes. -/
theorem toList_claim_of_not_mem {t : NameTable} {name : String} (h : name ∉ t.toList) :
    (t.claim name).toList = t.toList ++ [name] := by
  simp [claim, h]

/-- A name that is taken is not claimed a second time. -/
theorem claim_of_mem {t : NameTable} {name : String} (h : name ∈ t.toList) : t.claim name = t := by
  simp [claim, h]

/-- Claims keep the names of a table different. -/
theorem nodup_claim {t : NameTable} {name : String} (h : t.toList.Nodup) :
    (t.claim name).toList.Nodup := by
  by_cases hm : name ∈ t.toList
  · rwa [claim_of_mem hm]
  · rw [toList_claim_of_not_mem hm]
    refine List.nodup_append.2 ⟨h, by simp, ?_⟩
    -- the one name that is added is none of the old ones
    intro a ha b hb
    simp only [List.mem_singleton] at hb
    exact fun hab => hm (hb ▸ hab ▸ ha)

/-! ### What claims do to the table -/

/-- What has been claimed stays where it is. -/
theorem prefix_claim (t : NameTable) (name : String) : t.toList <+: (t.claim name).toList := by
  by_cases h : name ∈ t.toList
  · simp only [claim_of_mem h, List.prefix_rfl]
  · rw [toList_claim_of_not_mem h]
    exact List.prefix_append ..

/-- After a claim the table has the claimed name and those of before, whether the name was new or
not. -/
theorem mem_claim {t : NameTable} {name s : String} :
    s ∈ (t.claim name).toList ↔ s ∈ t.toList ∨ s = name := by
  by_cases h : name ∈ t.toList
  · rw [claim_of_mem h]
    exact ⟨Or.inl, fun hs => hs.elim id fun hs => hs ▸ h⟩
  · rw [toList_claim_of_not_mem h, List.mem_append, List.mem_singleton]

/-- However many names are claimed, those of before stay where they are. -/
theorem prefix_claimAll (t : NameTable) (names : List String) :
    t.toList <+: (t.claimAll names).toList := by
  induction names generalizing t with
  | nil => exact List.prefix_rfl
  | cons name names ih => exact (t.prefix_claim name).trans (ih (t.claim name))

/-- Every name of a list is taken once the list has been claimed. -/
theorem mem_claimAll {t : NameTable} {names : List String} {s : String} :
    s ∈ (t.claimAll names).toList ↔ s ∈ t.toList ∨ s ∈ names := by
  induction names generalizing t with
  | nil => simp [claimAll]
  | cons name names ih =>
    rw [claimAll, List.foldl_cons, ← claimAll, ih, mem_claim, List.mem_cons, or_assoc]

/-- The list may repeat a name or have names that are taken: the table has none of them twice. -/
theorem nodup_claimAll {t : NameTable} {names : List String} (h : t.toList.Nodup) :
    (t.claimAll names).toList.Nodup := by
  induction names generalizing t with
  | nil => exact h
  | cons name names ih => exact ih (nodup_claim h)

/-- Different names that are all free are appended in their order. -/
theorem toList_claimAll_of_free {t : NameTable} {names : List String} (hnodup : names.Nodup)
    (hfree : ∀ s ∈ names, s ∉ t.toList) : (t.claimAll names).toList = t.toList ++ names := by
  induction names generalizing t with
  | nil => simp [claimAll]
  | cons name names ih =>
    obtain ⟨hname, hnames⟩ := List.nodup_cons.1 hnodup
    have hclaim := toList_claim_of_not_mem (hfree name List.mem_cons_self)
    rw [claimAll, List.foldl_cons, ← claimAll, ih hnames, hclaim, List.append_assoc,
      List.singleton_append]
    -- the names behind the first are free after its claim as well, because they differ from it
    intro s hs hmem
    rcases mem_claim.1 hmem with hmem | rfl
    · exact hfree s (List.mem_cons_of_mem _ hs) hmem
    · exact hname hs

/-! ### What numbers stand for -/

/-- A number keeps its name when the table grows. -/
theorem resolve_of_prefix {t u : NameTable} (h : t.toList <+: u.toList) {id : Ident}
    (hid : id.index < t.size) : u.resolve id = t.resolve id := by
  obtain ⟨rest, hrest⟩ := h
  unfold resolve resolve?
  rw [← hrest, List.getElem?_append_left hid]

/-- Every number below the size of the table stands for a name. -/
theorem resolve?_eq_some {t : NameTable} {id : Ident} (h : id.index < t.size) :
    t.resolve? id = some (t.resolve id) := by
  unfold resolve resolve?
  rw [List.getElem?_eq_getElem h, Option.getD_some]

/-- What a number stands for has been claimed. -/
theorem resolve_mem {t : NameTable} {id : Ident} (hid : id.index < t.size) :
    t.resolve id ∈ t.toList :=
  List.mem_of_getElem? (resolve?_eq_some hid)

/-- A number is found under the name it stands for, if no other has the same name. -/
theorem get?_resolve {t : NameTable} (h : t.toList.Nodup) {id : Ident} (hid : id.index < t.size) :
    t.get? (t.resolve id) = some id := by
  have hname : t.toList[id.index]? = some (t.resolve id) := resolve?_eq_some hid
  rw [get?, findIdx?_eq_some_of_nodup h hname]
  rfl

/-- A name that is found is found under the same number when the table grows. -/
theorem get?_of_prefix {t u : NameTable} (h : t.toList <+: u.toList) {name : String} {id : Ident}
    (hfound : t.get? name = some id) : u.get? name = some id := by
  obtain ⟨rest, hrest⟩ := h
  obtain ⟨i, hi, rfl⟩ := Option.map_eq_some_iff.1 hfound
  -- the search stops in the old part and does not get to the new one
  rw [get?, ← hrest, List.findIdx?_append, hi]
  rfl

/-- A number that is found for a name stands for this name. -/
theorem resolve_of_get? {t : NameTable} {name : String} {id : Ident} (h : t.get? name = some id) :
    t.resolve id = name := by
  obtain ⟨i, hi, rfl⟩ := Option.map_eq_some_iff.1 h
  obtain ⟨hlt, heq, -⟩ := List.findIdx?_eq_some_iff_getElem.1 hi
  unfold resolve resolve?
  rw [List.getElem?_eq_getElem hlt, Option.getD_some, eq_of_beq heq]

/-- A new name gets the next number. -/
theorem claimedId_of_not_mem {t : NameTable} {name : String} (h : name ∉ t.toList) :
    t.claimedId name = t.next := by
  -- a search through the names that finds nothing leaves the number to be the next one
  have hnone : t.toList.findIdx? (· == name) = none :=
    List.findIdx?_eq_none_iff.2 fun s hs => by
      rw [beq_eq_false_iff_ne]
      rintro rfl
      exact h hs
  simp [claimedId, get?, hnone]

/-- The number that a claim hands out is a number of the table after it, and stands for the claimed
name. -/
theorem resolve?_claimedId (t : NameTable) (name : String) :
    (t.claim name).resolve? (t.claimedId name) = some name := by
  by_cases h : name ∈ t.toList
  · rw [claim_of_mem h]
    -- the name is there, so the search for it cannot have failed
    cases hfound : t.toList.findIdx? (· == name) with
    | none =>
      have := List.findIdx?_eq_none_iff.1 hfound name h
      simp at this
    | some i =>
      obtain ⟨hlt, heq, -⟩ := List.findIdx?_eq_some_iff_getElem.1 hfound
      simp only [claimedId, get?, hfound, Option.map_some, Option.getD_some, resolve?]
      rw [List.getElem?_eq_getElem hlt, eq_of_beq heq]
  · rw [claimedId_of_not_mem h]
    unfold resolve? next size
    rw [toList_claim_of_not_mem h]
    exact List.getElem?_concat_length

/-- What the number of a claim stands for is the name of the claim. -/
theorem resolve_claimedId (t : NameTable) (name : String) :
    (t.claim name).resolve (t.claimedId name) = name := by
  rw [resolve, resolve?_claimedId, Option.getD_some]

/-- The number of a claim lies below the size of the table after it. -/
theorem claimedId_lt_size (t : NameTable) (name : String) :
    (t.claimedId name).index < (t.claim name).size :=
  (List.getElem?_eq_some_iff.1 (t.resolve?_claimedId name)).1

end NameTable

end Netlist
