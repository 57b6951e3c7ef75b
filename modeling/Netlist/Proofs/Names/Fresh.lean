import Mathlib.Data.Finset.Card
import Mathlib.Data.Nat.Find
import Netlist.Id
import Netlist.Proofs.Names.Identifier

/-!
# The search for a fresh name ends

A fresh name is the first free form of a base (`form`): the base itself, then its suffixed forms.
The search has a bound, the largest suffix, but the bound is never what ends it: a name that is
taken blocks at most one form, so among one form more than there are taken names a free one is
found (`exists_free_form`).

`freshName_spec` puts this together for any notion of blocking, and the two instances follow. The
name of an instance is blocked by itself (`freshName_not_taken`); the name of a wire is blocked by
any of its three signals, and still no taken name blocks two of them (`freshName_not_clashing`),
because all its forms end in digits.
-/

namespace Netlist

/-- The forms of a base, in the order in which they are tried. -/
def form (base : String) : Nat → String
  | 0 => base
  | k + 1 => suffixed base (k + 1)

/-- Different numbers give different suffixes, since a number is read back from its digits. -/
theorem suffixed_injective (base : String) {i j : Nat} (h : suffixed base i = suffixed base j) :
    i = j := by
  have hlist := congrArg String.toList h
  simp only [suffixed, String.toList_append] at hlist
  have hdigits := List.append_cancel_left hlist
  rw [Nat.toString_eq_ofList_toDigits, Nat.toString_eq_ofList_toDigits, String.toList_ofList,
    String.toList_ofList] at hdigits
  calc
    i = Nat.ofDigitChars 10 (Nat.toDigits 10 i) 0 := Nat.ofDigitChars_ten_toDigits.symm
    _ = Nat.ofDigitChars 10 (Nat.toDigits 10 j) 0 := by rw [hdigits]
    _ = j := Nat.ofDigitChars_ten_toDigits

/-- No two forms of a base are the same. -/
theorem form_injective (base : String) {i j : Nat} (h : form base i = form base j) : i = j := by
  -- a suffixed form is longer than the base, so the base is not among them
  have hlonger : ∀ k, base ≠ suffixed base k := by
    intro k hk
    have hlength := congrArg String.length hk
    simp only [suffixed, String.length_append] at hlength
    have : "_".length = 1 := rfl
    omega
  cases i with
  | zero =>
    cases j with
    | zero => rfl
    | succ j => exact absurd h (hlonger _)
  | succ i =>
    cases j with
    | zero => exact absurd h.symm (hlonger _)
    | succ j => exact suffixed_injective base h

/-! ### Where the search ends -/

/-- The search through the suffixed forms stops at the first free one, if its budget reaches it. -/
theorem firstFree?_of_first {isFree : String → Bool} {base : String} {count k i : Nat}
    (hi : i < count) (hfree : isFree (suffixed base (k + i)) = true)
    (htaken : ∀ j < i, isFree (suffixed base (k + j)) = false) :
    firstFree? isFree base count k = some (suffixed base (k + i)) := by
  -- on how far away the free form is, for every place to start from
  induction i generalizing count k with
  | zero =>
    obtain ⟨count, rfl⟩ := Nat.exists_eq_succ_of_ne_zero (Nat.ne_of_gt hi)
    rw [Nat.add_zero] at hfree ⊢
    rw [firstFree?, if_pos hfree]
  | succ i ih =>
    obtain ⟨count, rfl⟩ := Nat.exists_eq_succ_of_ne_zero (Nat.ne_of_gt (Nat.zero_lt_of_lt hi))
    have hk : ¬ isFree (suffixed base k) = true := by
      rw [show isFree (suffixed base k) = false from htaken 0 (Nat.succ_pos i)]
      exact Bool.false_ne_true
    have hshift : ∀ m, k + 1 + m = k + (m + 1) := fun m => by omega
    rw [firstFree?, if_neg hk, ← hshift i]
    refine ih (Nat.lt_of_succ_lt_succ hi) ?_ fun j hj => ?_
    · rwa [hshift]
    · rw [hshift]
      exact htaken (j + 1) (Nat.succ_lt_succ hj)

/-- The search answers the first free form, as long as its suffix is not too large. -/
theorem freshName_eq_form {isFree : String → Bool} {base : String} {k : Nat}
    (hk : k ≤ suffixLimit) (hfree : isFree (form base k) = true)
    (htaken : ∀ j < k, isFree (form base j) = false) : freshName isFree base = form base k := by
  cases k with
  | zero => exact if_pos hfree
  | succ k =>
    have hbase : ¬ isFree base = true := by
      rw [show isFree base = false from htaken 0 (Nat.succ_pos k)]
      exact Bool.false_ne_true
    have hone : ∀ m, 1 + m = m + 1 := fun m => Nat.add_comm 1 m
    have hfound : firstFree? isFree base suffixLimit 1 = some (suffixed base (1 + k)) := by
      refine firstFree?_of_first hk ?_ fun j hj => ?_
      · rw [hone]
        exact hfree
      · rw [hone]
        exact htaken (j + 1) (Nat.succ_lt_succ hj)
    rw [freshName, if_neg hbase, hfound, hone]
    rfl

/-- **The pigeonhole.** If every form that is not free is blocked by a taken name, and no name
blocks two forms, then one of the first forms is free, the taken names counted. -/
theorem exists_free_form {isFree : String → Bool} {base : String} {taken : List String}
    {Blocks : String → Nat → Prop}
    (hblocked : ∀ j, isFree (form base j) = false → ∃ s ∈ taken, Blocks s j)
    (hone : ∀ s i j, Blocks s i → Blocks s j → i = j) :
    ∃ k ≤ taken.length, isFree (form base k) = true ∧ ∀ j < k, isFree (form base j) = false := by
  have hexists : ∃ k ≤ taken.length, isFree (form base k) = true := by
    -- otherwise each of the first forms has a blocker of its own, one more than there are taken
    -- names
    by_contra hnone
    have hall : ∀ j, ∃ s, j ≤ taken.length → s ∈ taken ∧ Blocks s j := by
      intro j
      by_cases hj : j ≤ taken.length
      · have hj' : isFree (form base j) = false :=
          Bool.eq_false_iff.2 fun hfree => hnone ⟨j, hj, hfree⟩
        obtain ⟨s, hs, hblocks⟩ := hblocked j hj'
        exact ⟨s, fun _ => ⟨hs, hblocks⟩⟩
      · exact ⟨"", fun h => absurd h hj⟩
    choose blocker hblocker using hall
    have hcard : taken.toFinset.card < (Finset.range (taken.length + 1)).card := by
      rw [Finset.card_range]
      exact Nat.lt_succ_of_le (List.toFinset_card_le taken)
    obtain ⟨i, hi, j, hj, hne, heq⟩ := Finset.exists_ne_map_eq_of_card_lt_of_maps_to hcard
      (f := blocker) fun j hj => List.mem_toFinset.2
        (hblocker j (Nat.le_of_lt_succ (Finset.mem_range.1 hj))).1
    have hbi := (hblocker i (Nat.le_of_lt_succ (Finset.mem_range.1 hi))).2
    have hbj := (hblocker j (Nat.le_of_lt_succ (Finset.mem_range.1 hj))).2
    exact hne (hone _ i j (heq ▸ hbi) hbj)
  -- of the free forms among them the search takes the first
  classical
  have hfound : ∃ k, isFree (form base k) = true := hexists.imp fun _ h => h.2
  obtain ⟨k, hk, hfree⟩ := hexists
  refine ⟨Nat.find hfound, (Nat.find_min' hfound hfree).trans hk, Nat.find_spec hfound, ?_⟩
  exact fun j hj => Bool.eq_false_iff.2 (Nat.find_min hfound hj)

/-- **The answer of the search**: the first free form, whose suffix is at most the number of taken
names. -/
theorem freshName_spec (isFree : String → Bool) (base : String) {taken : List String}
    (Blocks : String → Nat → Prop)
    (hblocked : ∀ j, isFree (form base j) = false → ∃ s ∈ taken, Blocks s j)
    (hone : ∀ s i j, Blocks s i → Blocks s j → i = j) (hfew : taken.length < idLimit) :
    ∃ k ≤ taken.length, freshName isFree base = form base k ∧ isFree (form base k) = true ∧
      ∀ j < k, isFree (form base j) = false := by
  obtain ⟨k, hk, hfree, htaken⟩ := exists_free_form hblocked hone
  -- there are fewer taken names than suffixes, so the limit is not what ends the search
  have hlimit : k ≤ suffixLimit := by
    unfold suffixLimit
    unfold idLimit at hfew
    omega
  exact ⟨k, hk, freshName_eq_form hlimit hfree htaken, hfree, htaken⟩

/-! ### The two kinds of fresh names -/

section Kinds

variable {t : NameTable}

/-- A fresh name that has to differ from all taken names does. -/
theorem freshName_not_taken (base : String) (hfew : t.size < idLimit) :
    ∃ k ≤ t.size, freshName (fun name => !t.isTaken name) base = form base k ∧
      form base k ∉ t.toList ∧ ∀ j < k, form base j ∈ t.toList := by
  -- here a taken name blocks the form it is
  obtain ⟨k, hk, heq, hfree, htaken⟩ := freshName_spec (fun name => !t.isTaken name) base
    (fun s j => s = form base j)
    (fun j hj => ⟨form base j, by simpa using hj, rfl⟩)
    (fun s i j hi hj => form_injective base (hi.symm.trans hj)) hfew
  refine ⟨k, hk, heq, fun hmem => ?_, fun j hj => ?_⟩
  · rw [NameTable.isTaken_iff.2 hmem] at hfree
    cases hfree
  · exact NameTable.isTaken_iff.1 (by simpa using htaken j hj)

/-- The forms of a base that ends in a digit end in digits. -/
theorem endsInDigit_form {base : String} (h : EndsInDigit base) (k : Nat) :
    EndsInDigit (form base k) := by
  cases k with
  | zero => exact h
  | succ k => exact endsInDigit_append_toString _ _

/-- A fresh name none of whose three signals may be taken: a taken name is a signal of one form of
the base at most, provided that the base ends in a digit. -/
theorem freshName_not_clashing {base : String} (hbase : EndsInDigit base)
    (hfew : t.size < idLimit) :
    ∃ k ≤ t.size,
      freshName (fun name => ((handshake name).find? t.isTaken).isNone) base = form base k ∧
      (∀ s ∈ handshake (form base k), s ∉ t.toList) ∧
      ∀ j < k, ∃ s ∈ handshake (form base j), s ∈ t.toList := by
  have hfree : ∀ name, ((handshake name).find? t.isTaken).isNone = true ↔
      ∀ s ∈ handshake name, s ∉ t.toList := by
    intro name
    rw [Option.isNone_iff_eq_none, List.find?_eq_none]
    simp only [NameTable.isTaken_iff]
  have htaken : ∀ name, ((handshake name).find? t.isTaken).isNone = false →
      ∃ s ∈ handshake name, s ∈ t.toList := by
    intro name hname
    rw [Bool.eq_false_iff, Ne, hfree] at hname
    push Not at hname
    exact hname
  -- here a taken name blocks the form it is a signal of
  obtain ⟨k, hk, heq, hk', hbefore⟩ := freshName_spec
    (fun name => ((handshake name).find? t.isTaken).isNone) base
    (fun s j => s ∈ handshake (form base j))
    (fun j hj => (htaken _ hj).imp fun s hs => ⟨hs.2, hs.1⟩)
    (fun s i j hi hj => form_injective base
      (eq_of_mem_handshake (endsInDigit_form hbase i) (endsInDigit_form hbase j) hi hj)) hfew
  exact ⟨k, hk, heq, (hfree _).1 hk', fun j hj => htaken _ (hbefore j hj)⟩

end Kinds

end Netlist
