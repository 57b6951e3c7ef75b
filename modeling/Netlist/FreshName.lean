/-!
# Fresh names

Names that nobody chose (of automatic wires and of instances) start from a base and take a
numeric suffix only when the base is not free: `base`, `base_1`, `base_2`, and so on. `freshName`
is the first free one of these.
-/

namespace Netlist

/-- Suffixes are counted in a 32-bit word, from one up to its largest value. -/
def suffixLimit : Nat := UInt32.size - 1

/-- The `k`-th suffixed form of a base. -/
def suffixed (base : String) (k : Nat) : String :=
  base ++ "_" ++ toString k

/-- The first free one of `count` suffixed forms, counted from `k`. -/
def firstFree? (isFree : String → Bool) (base : String) : (count k : Nat) → Option String
  | 0, _ => none
  | count + 1, k =>
    if isFree (suffixed base k) then some (suffixed base k)
    else firstFree? isFree base count (k + 1)

/-- **The first free form of `base`**: the base itself, or its first free suffixed form. Should no
suffix be free, the base stands. -/
def freshName (isFree : String → Bool) (base : String) : String :=
  -- the bare name is tried before any suffix
  if isFree base then base else (firstFree? isFree base suffixLimit 1).getD base

/-- A search that ends, ends at a free form whose predecessors are all taken. -/
theorem firstFree?_eq_some {isFree : String → Bool} {base s : String} {count k : Nat}
    (h : firstFree? isFree base count k = some s) :
    ∃ i < count, s = suffixed base (k + i) ∧ isFree s = true ∧
      ∀ j < i, isFree (suffixed base (k + j)) = false := by
  induction count generalizing k with
  | zero => simp [firstFree?] at h
  | succ count ih =>
    rw [firstFree?] at h
    split at h
    · next hk =>
      cases h
      exact ⟨0, Nat.succ_pos _, rfl, hk, fun j hj => absurd hj (Nat.not_lt_zero j)⟩
    · next hk =>
      obtain ⟨i, hi, hs, hfree, hbefore⟩ := ih h
      refine ⟨i + 1, Nat.succ_lt_succ hi, by rw [hs]; congr 1; omega, hfree, fun j hj => ?_⟩
      match j with
      | 0 => simpa using hk
      | j + 1 =>
        have := hbefore j (Nat.lt_of_succ_lt_succ hj)
        rwa [Nat.add_right_comm] at this

end Netlist
