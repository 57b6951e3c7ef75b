import Mathlib.Data.List.Basic

/-!
# Texts made of lines

A text that is glued from lines, each with its line break behind it, gives the lines back
(`linesOf_join`), provided that there is no line break inside of them. The reason has nothing to do
with texts: pieces of any kind that each end in the same separator, and do not have it inside, are
split where they end (`splitOn_pieces`).

A line that begins with a mark says what stands after it (`textAfter?`).
-/

namespace Netlist

/-- Pieces that each end with a separator, and whatever comes last, are split at the separators. -/
theorem splitOn_pieces {α : Type} [BEq α] [LawfulBEq α] {sep : α} {pieces : List (List α)}
    {last : List α} (h : ∀ piece ∈ pieces, sep ∉ piece) (hlast : sep ∉ last) :
    (pieces.flatMap (· ++ [sep]) ++ last).splitOn sep = pieces ++ [last] := by
  -- on the pieces: the first separator is the one behind the first of them
  induction pieces with
  | nil => exact List.splitOn_eq_singleton hlast
  | cons piece pieces ih =>
    rw [List.flatMap_cons, List.append_assoc, List.append_assoc, List.singleton_append,
      List.splitOn_append_cons_self_of_not_mem (h piece List.mem_cons_self),
      ih fun p hp => h p (List.mem_cons_of_mem _ hp), List.cons_append]

/-- Where a separator stands for the first time, a list is cut in one way. -/
theorem eq_of_append_cons {α : Type} [BEq α] [LawfulBEq α] {sep : α}
    {front front' rest rest' : List α} (hfront : sep ∉ front) (hfront' : sep ∉ front')
    (h : front ++ sep :: rest = front' ++ sep :: rest') : front = front' ∧ rest = rest' := by
  have hsplit := congrArg (List.splitOn sep) h
  rw [List.splitOn_append_cons_self_of_not_mem hfront,
    List.splitOn_append_cons_self_of_not_mem hfront'] at hsplit
  obtain rfl : front = front' := (List.cons.inj hsplit).1
  exact ⟨rfl, (List.cons.inj (List.append_cancel_left h)).2⟩

/-- The lines of a text, each of which is ended by a line break. -/
def linesOf (text : String) : List String :=
  ((text.toList.splitOn '\n').map String.ofList).dropLast

/-- A text made of lines gives them back. -/
theorem linesOf_join {lines : List String} (h : ∀ line ∈ lines, '\n' ∉ line.toList) :
    linesOf (String.join (lines.map (· ++ "\n"))) = lines := by
  -- nothing stands behind the last line break, and this empty rest is what is dropped
  have hchars : (String.join (lines.map (· ++ "\n"))).toList =
      (lines.map String.toList).flatMap (· ++ ['\n']) ++ [] := by
    rw [String.toList_join, List.flatMap_map, List.flatMap_map, List.append_nil]
    exact List.flatMap_congr fun line _ => String.toList_append
  have hsplit : ((lines.map String.toList).flatMap (· ++ ['\n']) ++ []).splitOn '\n' =
      lines.map String.toList ++ [[]] := by
    refine splitOn_pieces (fun chars hchars => ?_) List.not_mem_nil
    obtain ⟨line, hline, rfl⟩ := List.mem_map.1 hchars
    exact h line hline
  rw [linesOf, hchars, hsplit, List.map_append, List.map_map, List.map_singleton,
    List.dropLast_concat]
  exact List.map_id'' (fun line => String.ofList_toList) lines

/-- What stands in a line after the mark it begins with. -/
def textAfter? (mark line : String) : Option String :=
  (line.toList.dropPrefix? mark.toList).map String.ofList

/-- Behind its mark, the text of a line is found. -/
theorem textAfter?_append (mark text : String) : textAfter? mark (mark ++ text) = some text := by
  rw [textAfter?, String.toList_append, List.dropPrefix?_append_of_beq _ (BEq.rfl),
    Option.map_some, String.ofList_toList]

end Netlist
