import Mathlib.Order.Bounds.Defs
import Netlist.Proofs.Chip.Clashes

/-!
# Automatic naming is minimal and never fails

Wires and instances are named by a search: the base if it is free, else the base with the least
suffix that makes it free (`IsFirstFree`). The search of the library tries a fixed number of
suffixes and falls back on the base, taken as it is, if none of them will do. What is proved here is
that the fallback is dead code while the names of the chip can be counted by a 32-bit word with one
to spare.

The suffix is a 32-bit word as well. A counter is moved on before its old value is handed out, so
the largest word is never tried: a search that asks for it has overflowed. `firstFreeWord?` is the
search with that counter, and it is shown to find the same name. The bound comes from the pigeonhole
of `freshName_spec`: the suffix is at most the number of taken names, which is why the table has to
be one name shorter than what the words can count.
-/

namespace Netlist

/-! ### The search with a word for its counter -/

/-- Below the largest word, counting words is counting numbers. -/
theorem toNat_word_succ {k : UInt32} (h : k.toNat + 1 < UInt32.size) :
    (k + 1).toNat = k.toNat + 1 := by
  rw [UInt32.toNat_add]
  exact Nat.mod_eq_of_lt h

/-- **The search, counting in a 32-bit word.** The word is moved on before the suffix is tried;
there is no answer when it cannot be. -/
def firstFreeWord? (isFree : String → Bool) (base : String) (k : UInt32) : Option String :=
  if k.toNat + 1 < UInt32.size then
    if isFree (suffixed base k.toNat) then some (suffixed base k.toNat)
    else firstFreeWord? isFree base (k + 1)
  else none
termination_by UInt32.size - k.toNat
decreasing_by
  have hnext := toNat_word_succ ‹_›
  omega

/-- If a suffix is free, none before it is, and the word can be moved on behind it, the search in
words comes to it. -/
theorem firstFreeWord?_of_first {isFree : String → Bool} {base : String} {k : UInt32} {i : Nat}
    (hi : k.toNat + i + 1 < UInt32.size) (hfree : isFree (suffixed base (k.toNat + i)) = true)
    (htaken : ∀ j < i, isFree (suffixed base (k.toNat + j)) = false) :
    firstFreeWord? isFree base k = some (suffixed base (k.toNat + i)) := by
  -- on the distance to the free suffix; the word moves towards it
  induction i generalizing k with
  | zero =>
    rw [Nat.add_zero] at hi hfree ⊢
    rw [firstFreeWord?, if_pos hi, if_pos hfree]
  | succ i ih =>
    have hroom : k.toNat + 1 < UInt32.size := by omega
    have hk : ¬ isFree (suffixed base k.toNat) = true := by
      rw [show isFree (suffixed base k.toNat) = false from htaken 0 (Nat.succ_pos i)]
      exact Bool.false_ne_true
    have hnext : (k + 1).toNat = k.toNat + 1 := toNat_word_succ hroom
    -- seen from the next word, the free suffix is one step nearer
    have hshift : ∀ m, (k + 1).toNat + m = k.toNat + (m + 1) := fun m => by omega
    rw [firstFreeWord?, if_pos hroom, if_neg hk, ← hshift i]
    refine ih (by omega) ?_ fun j hj => ?_
    · rwa [hshift]
    · rw [hshift]
      exact htaken (j + 1) (Nat.succ_lt_succ hj)

/-! ### The least free form -/

/-- **The first free form of a base.** It is the base if that is free; otherwise it has the least
suffix, from one up, that makes it free, and the suffix is no larger than `bound`. Then the search
has come to it without running out of suffixes, and without an overflow of its counter. -/
structure IsFirstFree (Free : String → Prop) [DecidablePred Free] (base : String) (bound : Nat)
    (name : String) : Prop where
  free : Free name
  unsuffixed : Free base → name = base
  least : ¬ Free base → ∃ k, name = suffixed base k ∧
    IsLeast {k | 1 ≤ k ∧ Free (suffixed base k)} k ∧ k ≤ bound
  found : ¬ Free base → firstFree? (fun s => decide (Free s)) base suffixLimit 1 = some name
  noOverflow : ¬ Free base → firstFreeWord? (fun s => decide (Free s)) base 1 = some name

/-- The first form that is free is the first free form in every respect, as long as there is room
for it. -/
theorem isFirstFree_form {Free : String → Prop} [DecidablePred Free] {base : String}
    {k bound : Nat} (hk : k ≤ bound) (hbound : bound < suffixLimit) (hfree : Free (form base k))
    (htaken : ∀ j < k, ¬ Free (form base j)) : IsFirstFree Free base bound (form base k) := by
  cases k with
  | zero =>
    have hbase : Free base := hfree
    -- without a suffix there has been no search
    exact ⟨hbase, fun _ => rfl, absurd hbase, absurd hbase, absurd hbase⟩
  | succ k =>
    have hbase : ¬ Free base := htaken 0 (Nat.succ_pos k)
    -- the search starts at one, and forms are counted from zero
    have hone : ∀ m, 1 + m = m + 1 := fun m => Nat.add_comm 1 m
    have hfree' : decide (Free (suffixed base (1 + k))) = true := by
      rw [hone]
      exact decide_eq_true hfree
    have htaken' : ∀ j < k, decide (Free (suffixed base (1 + j))) = false := by
      intro j hj
      rw [hone]
      exact decide_eq_false (htaken (j + 1) (Nat.succ_lt_succ hj))
    have hname : form base (k + 1) = suffixed base (1 + k) := by
      rw [hone]
      rfl
    refine ⟨hfree, fun h => absurd h hbase, fun _ => ⟨k + 1, rfl, ⟨⟨?_, hfree⟩, ?_⟩, hk⟩, ?_, ?_⟩
    · exact Nat.succ_pos k
    · -- a smaller suffix has been tried in vain
      rintro j ⟨hpos, hj⟩
      obtain ⟨j, rfl⟩ := Nat.exists_eq_succ_of_ne_zero (Nat.ne_of_gt hpos)
      exact Nat.le_of_not_lt fun hlt => htaken (j + 1) hlt hj
    · intro _
      rw [hname]
      exact firstFree?_of_first (by omega) hfree' htaken'
    · intro _
      -- the word moves on behind the suffix as well, and that is what the limit leaves room for
      have hroom : (1 : UInt32).toNat + k + 1 < UInt32.size := by
        have : (1 : UInt32).toNat = 1 := rfl
        unfold suffixLimit at hbound
        omega
      rw [hname]
      exact firstFreeWord?_of_first hroom hfree' htaken'

namespace Chip

variable {c : Chip}

/-- Room for one name more leaves the words that number the names room as well. -/
theorem lt_idLimit_of_lt_suffixLimit {n : Nat} (h : n < suffixLimit) : n < idLimit := by
  unfold suffixLimit at h
  unfold idLimit
  omega

/-! ### Wires -/

/-- The name of the next wire is the first form of its base with three free signals. -/
theorem isFirstFree_nextWireName (hfew : c.names.size < suffixLimit) :
    IsFirstFree (fun name => ∀ s ∈ handshake name, s ∉ c.names.toList) (wireBase c.netCount)
      c.names.size c.nextWireName := by
  obtain ⟨k, hk, heq, hfree, htaken⟩ := freshName_not_clashing (endsInDigit_wireBase c.nets.next)
    (lt_idLimit_of_lt_suffixLimit hfew)
  rw [show c.nextWireName = form (wireBase c.nets.next) k from heq]
  refine isFirstFree_form hk hfew hfree fun j hj hall => ?_
  obtain ⟨s, hs, hmem⟩ := htaken j hj
  exact hall s hs hmem

/-- A wire is always added, under this name. -/
theorem addsNet_createWire (hfew : c.names.size < suffixLimit) :
    c.AddsNet c.nextWireName .internal c.createWire.chip :=
  c.addsNet_withNet .internal (nextWireName_free (lt_idLimit_of_lt_suffixLimit hfew))

/-- The new net goes by the name that it was added under. -/
theorem AddsNet.netName_eq {c' : Chip} {base : String} {kind : NetKind}
    (h : c.AddsNet base kind c') : c'.netName ⟨c.netCount⟩ = base := by
  obtain ⟨n, hnets, -, -, hname, -⟩ := h.nets
  have hn : c'.net? ⟨c.netCount⟩ = some n := by
    change c'.nets.toList[c.nets.toList.length]? = some n
    rw [hnets]
    exact List.getElem?_concat_length
  rw [Chip.netName_eq hn, hname]

/-! ### Instances -/

/-- The name of the next instance is the first form of its base that is free. -/
theorem isFirstFree_nextInstanceName (d : Component) (hfew : c.names.size < suffixLimit) :
    IsFirstFree (· ∉ c.names.toList) (instanceBase c.instanceCount d.name) c.names.size
      (c.nextInstanceName d) := by
  obtain ⟨k, hk, heq, hfree, htaken⟩ := freshName_not_taken
    (instanceBase c.instances.next d.name) (lt_idLimit_of_lt_suffixLimit hfew)
  rw [show c.nextInstanceName d = form (instanceBase c.instances.next d.name) k from heq]
  exact isFirstFree_form hk hfew hfree fun j hj hnot => hnot (htaken j hj)

/-- The new instance goes by the name that the search has found. -/
theorem AddsInstance.instanceName_eq {c' : Chip} {d : Component} {inputs outputs : List NetId}
    (h : c.AddsInstance d inputs outputs c') :
    c'.instanceName ⟨c.instanceCount⟩ = c.nextInstanceName d := by
  obtain ⟨ident, hname, hinstances⟩ := h.instances
  have hi : c'.instance? ⟨c.instanceCount⟩ =
      some ⟨⟨c.instanceCount⟩, ident, d, inputs, outputs⟩ := by
    change c'.instances.toList[c.instances.toList.length]? = _
    rw [hinstances]
    exact List.getElem?_concat_length
  rw [instanceName, hi]
  exact hname

/-! ### The law -/

/-- **Automatic naming never fails, and takes the least name there is.** In a reachable chip with
room for a name, a wire is always added, and its name is the first form of `wire_<number>` none of
whose signals is taken; an instance that is added is named by the first form of
`inst_<number>_<component>` that is not taken. The numbers are those of the net and of the instance,
the suffixes count at most the names that are taken, and no search falls back on a taken base or
overflows. -/
theorem Reachable.automaticNames (h : c.Reachable) (hfew : c.names.size < suffixLimit) :
    (c.createWire.outcome = .ok ⟨c.netCount⟩ ∧
        c.AddsNet (c.createWire.chip.netName ⟨c.netCount⟩) .internal c.createWire.chip ∧
        IsFirstFree (fun name => ∀ s ∈ handshake name, s ∉ c.names.toList)
          s!"wire_{c.netCount}" c.names.size (c.createWire.chip.netName ⟨c.netCount⟩)) ∧
      (∀ d inputs outputs id, (c.instantiate d inputs outputs).outcome = .ok id →
        id = ⟨c.instanceCount⟩ ∧
        IsFirstFree (· ∉ c.names.toList) s!"inst_{id.index}_{d.name}" c.names.size
          ((c.instantiate d inputs outputs).chip.instanceName id)) ∧
      c.names.toList.Nodup ∧ ∀ s, s ∈ c.names.toList ↔ c.Uses s := by
  refine ⟨⟨rfl, ?_⟩, ?_, ?_, ?_⟩
  · rw [(addsNet_createWire hfew).netName_eq]
    exact ⟨addsNet_createWire hfew, isFirstFree_nextWireName hfew⟩
  · intro d inputs outputs id hok
    -- the instance is there, so its request was feasible and has got the next number
    obtain ⟨hfeasible, nets, hpasses, hchip⟩ := instantiate_of_ok hok
    obtain rfl : id = ⟨c.instanceCount⟩ := Except.ok.inj (hok.symm.trans hfeasible.outcome_eq)
    refine ⟨rfl, ?_⟩
    rw [hchip, (addsInstance_of_passes hpasses).instanceName_eq]
    exact isFirstFree_nextInstanceName d hfew
  · exact (h.separate (lt_idLimit_of_lt_suffixLimit hfew)).nodup
  · exact fun s => h.mem_names_iff

/-- A component without ports. -/
def idle : Component := ⟨"Idle", [], [], ""⟩

/-- Nets whose names stand in the way of the next wire and of the next instance. -/
def obstacles : List Call :=
  [.createBoundaryInput "wire_3_ack", .createInternal "wire_3_1_stb",
    .createBoundaryOutput "inst_0_Idle"]

/-- An acknowledge is in the way of `wire_3` and a strobe in that of `wire_3_1`, so the wire gets
the suffix two; the first instance gets the suffix one, because a net is called like it. -/
theorem automaticNames_obstacles : ∃ c : Chip,
    c = Chip.run ⟨"top", .empty, .empty, .empty⟩ obstacles ∧
    c.Reachable ∧ c.names.size < suffixLimit ∧
    c.createWire.chip.netName ⟨3⟩ = "wire_3_2" ∧
    IsLeast {k | 1 ≤ k ∧ ∀ s ∈ handshake (suffixed "wire_3" k), s ∉ c.names.toList} 2 ∧
    (c.instantiate idle [] []).chip.instanceName ⟨0⟩ = "inst_0_Idle_1" ∧
    firstFreeWord? (fun s => decide (s ∉ c.names.toList)) "inst_0_Idle" 1 =
      some "inst_0_Idle_1" := by
  have hnew : Chip.new "top" = .ok ⟨"top", .empty, .empty, .empty⟩ := rfl
  have hreachable := (Reachable.new hnew).run obstacles
  have hfew : (Chip.run ⟨"top", .empty, .empty, .empty⟩ obstacles).names.size < suffixLimit := by
    decide
  obtain ⟨⟨-, -, hwire⟩, hinstance, -, -⟩ := Reachable.automaticNames hreachable hfew
  obtain ⟨-, hfirst⟩ := hinstance idle [] [] ⟨0⟩ rfl
  obtain ⟨k, hk, hleast, -⟩ := hwire.least (by decide)
  obtain rfl : 2 = k := suffixed_injective "wire_3" hk
  exact ⟨_, rfl, hreachable, hfew, rfl, hleast, rfl, hfirst.noOverflow (by decide)⟩

end Chip

end Netlist
