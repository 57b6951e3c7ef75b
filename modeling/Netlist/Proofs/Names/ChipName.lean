import Netlist.Command.Scaffold
import Netlist.Proofs.Names.Identifier

/-!
# Chips named after directories

A directory can have any name, and the name of a chip has to be an identifier. `chipNameFor` makes
the one out of the other in three steps: other characters become underscores, an underscore is put
in front of what cannot start a name, and one is put behind a reserved word. The last step is not
checked again. It need not be: after the first two the word has the shape of a name
(`wordFor_shape`), and no reserved word has an underscore.

A name that is an identifier already goes through all three unchanged, so that naming a chip after
the name of a chip changes nothing.
-/

namespace Netlist.Command

open Identifier

/-- A directory's name after its characters and its start have been seen to. -/
def wordFor (dirName : String) : String :=
  String.ofList (withStart (dirName.toList.map chipNameChar))

/-- The name of the chip is the word if it can be a name, and has an underscore behind it if not. -/
theorem chipNameFor_eq (dirName : String) :
    chipNameFor dirName =
      if IsIdentifier (wordFor dirName) then wordFor dirName else wordFor dirName ++ "_" := by
  have hflaw : IsIdentifier (wordFor dirName) ↔ (flaw? (wordFor dirName)).isNone = true :=
    Option.isNone_iff_eq_none.symm
  simp only [hflaw]
  rfl

/-! ### The shape of the word -/

/-- A character that has been seen to may continue an identifier. -/
theorem isContinuation_chipNameChar (c : Char) : isContinuation (chipNameChar c) = true := by
  unfold chipNameChar
  split
  · next h => rw [isContinuation, h, Bool.true_or]
  · decide

/-- A character that may continue an identifier is left as it is. -/
theorem chipNameChar_of_isContinuation {c : Char} (h : isContinuation c = true) :
    chipNameChar c = c := by
  unfold chipNameChar
  split
  · rfl
  · next hother =>
    -- an underscore stands for itself
    rw [isContinuation, Bool.or_eq_true, beq_iff_eq] at h
    exact (h.resolve_left hother).symm

/-- After the start has been seen to, the first character may start an identifier. -/
theorem withStart_shape {cs : List Char} (h : ∀ c ∈ cs, isContinuation c = true) :
    ∃ c rest, withStart cs = c :: rest ∧ isStart c = true ∧
      ∀ d ∈ rest, isContinuation d = true := by
  cases cs with
  | nil => exact ⟨'_', [], rfl, by decide, List.forall_mem_nil _⟩
  | cons c rest =>
    by_cases hstart : isStart c = true
    · refine ⟨c, rest, ?_, hstart, fun d hd => h d (List.mem_cons_of_mem c hd)⟩
      rw [withStart, if_pos hstart]
    · -- an underscore comes in front, and the old start has only to continue the word
      refine ⟨'_', c :: rest, ?_, by decide, h⟩
      rw [withStart, if_neg hstart]

/-- The word starts like an identifier and goes on like one. -/
theorem wordFor_shape (dirName : String) :
    ∃ c rest, (wordFor dirName).toList = c :: rest ∧ isStart c = true ∧
      ∀ d ∈ rest, isContinuation d = true := by
  rw [wordFor, String.toList_ofList]
  apply withStart_shape
  exact List.forall_mem_map.2 fun c _ => isContinuation_chipNameChar c

/-! ### The name -/

/-- **The chip of a directory is named by an identifier**, whatever the directory is called. -/
theorem isIdentifier_chipNameFor (dirName : String) : IsIdentifier (chipNameFor dirName) := by
  rw [chipNameFor_eq]
  split
  · next h => exact h
  · -- the word is reserved; with the underscore behind it, it is not any more
    obtain ⟨c, rest, hword, hstart, hrest⟩ := wordFor_shape dirName
    have hglued : (wordFor dirName ++ "_").toList = c :: (rest ++ ['_']) := by
      rw [String.toList_append, hword, List.cons_append]
      rfl
    refine isIdentifier_of_underscore hglued hstart (fun d hd => ?_) ?_
    · rcases List.mem_append.1 hd with hd | hd
      · exact hrest d hd
      · obtain rfl := List.mem_singleton.1 hd
        decide
    · rw [String.toList_append]
      exact List.mem_append_right _ (by decide)

/-- An identifier is its own word. -/
theorem wordFor_of_isIdentifier {dirName : String} (h : IsIdentifier dirName) :
    wordFor dirName = dirName := by
  have hchars : dirName.toList.map chipNameChar = dirName.toList := by
    refine (List.map_congr_left fun c hc => ?_).trans (List.map_id _)
    exact chipNameChar_of_isContinuation (h.isContinuation hc)
  obtain ⟨c, rest, hname, hstart, -⟩ := isIdentifier_iff.1 h
  rw [wordFor, hchars, hname, withStart, if_pos hstart, ← hname, String.ofList_toList]

/-- A directory whose name is an identifier has a chip of the same name. -/
theorem chipNameFor_of_isIdentifier {dirName : String} (h : IsIdentifier dirName) :
    chipNameFor dirName = dirName := by
  have hword := wordFor_of_isIdentifier h
  rw [chipNameFor_eq, hword, if_pos h]

/-- The name of a chip is a name for its directory. -/
theorem chipNameFor_chipNameFor (dirName : String) :
    chipNameFor (chipNameFor dirName) = chipNameFor dirName :=
  chipNameFor_of_isIdentifier (isIdentifier_chipNameFor dirName)

example : chipNameFor "2-stage adder" = "_2_stage_adder" ∧ chipNameFor "wire" = "wire_" := by
  decide +kernel

end Netlist.Command
