import Netlist.Proofs.Names.Identifier
import Netlist.Verilog.Module

/-!
# Tokens of a module text

A text is read in two steps, and this file is the first of them: `tokens` cuts it into words, which
are runs of letters, digits and underscores, and marks, which are all other characters. White space
separates words and is dropped otherwise.

Texts are made by gluing, so what is needed is that `tokens` can be taken piece by piece. That is
wrong in general, because two words that meet become one; it is right wherever at least one side of
the seam is no part of a word (`tokens_append_of_startsApart`, `tokens_append_of_endsApart`). In
particular a text can be read line by line (`tokens_join_lines`).
-/

namespace Netlist.Verilog

open Identifier (isContinuation)

/-- A piece of a text. -/
inductive Token where
  /-- Letters, digits and underscores. -/
  | word (s : String)
  /-- Any other character that can be seen. -/
  | mark (c : Char)
deriving DecidableEq, Repr

/-- The word made of the characters collected so far, if there are any. -/
def collected : List Char → List Token
  | [] => []
  | c :: cs => [.word (String.ofList (c :: cs))]

/-- What a character that is no part of a word stands for. -/
def separator (c : Char) : List Token :=
  if c.isWhitespace then [] else [.mark c]

/-- Cuts characters into tokens; `word` holds the characters of a word that has begun. -/
def scan (word : List Char) : List Char → List Token
  | [] => collected word
  | c :: rest =>
    if isContinuation c then scan (word ++ [c]) rest
    else collected word ++ separator c ++ scan [] rest

/-- **The tokens of a text.** -/
def tokens (s : String) : List Token :=
  scan [] s.toList

/-! ### Seams -/

/-- The text begins with a character that is no part of a word. -/
def StartsApart (s : String) : Prop :=
  ∃ c rest, s.toList = c :: rest ∧ isContinuation c = false

/-- The text ends with a character that is no part of a word. -/
def EndsApart (s : String) : Prop :=
  ∃ front c, s.toList = front ++ [c] ∧ isContinuation c = false

/-- What stands in front of it does not matter for how a text ends. -/
theorem EndsApart.append (s : String) {t : String} (h : EndsApart t) : EndsApart (s ++ t) := by
  obtain ⟨front, c, ht, hc⟩ := h
  exact ⟨s.toList ++ front, c, by rw [String.toList_append, ht, List.append_assoc], hc⟩

/-- The characters of a word are collected. -/
theorem scan_of_word (word : List Char) {w : List Char} (hw : ∀ c ∈ w, isContinuation c = true)
    (rest : List Char) : scan word (w ++ rest) = scan (word ++ w) rest := by
  -- on the characters to come; what has been collected grows
  induction w generalizing word with
  | nil => rw [List.nil_append, List.append_nil]
  | cons c w ih =>
    rw [List.cons_append, scan, if_pos (hw c List.mem_cons_self),
      ih _ fun d hd => hw d (List.mem_cons_of_mem _ hd), List.append_assoc, List.singleton_append]

/-- A character that is no part of a word ends whatever has begun in front of it. -/
theorem scan_append_cons (word l : List Char) {c : Char} (hc : isContinuation c = false)
    (rest : List Char) :
    scan word (l ++ c :: rest) = scan word l ++ separator c ++ scan [] rest := by
  have hstop : ¬ isContinuation c = true := Bool.eq_false_iff.1 hc
  -- up to the character in question, whatever word has begun
  induction l generalizing word with
  | nil => rw [List.nil_append, scan, scan, if_neg hstop]
  | cons d l ih =>
    rw [List.cons_append, scan, scan]
    by_cases hd : isContinuation d = true
    · rw [if_pos hd, if_pos hd, ih]
    · rw [if_neg hd, if_neg hd, ih]
      simp only [List.append_assoc]

/-- A text that starts apart can be read by itself. -/
theorem tokens_append_of_startsApart (s : String) {t : String} (h : StartsApart t) :
    tokens (s ++ t) = tokens s ++ tokens t := by
  obtain ⟨c, rest, ht, hc⟩ := h
  unfold tokens
  rw [String.toList_append, ht, scan_append_cons _ _ hc, List.append_assoc]
  exact congrArg _ (scan_append_cons [] [] hc rest).symm

/-- So can what follows a text that ends apart. -/
theorem tokens_append_of_endsApart {s : String} (h : EndsApart s) (t : String) :
    tokens (s ++ t) = tokens s ++ tokens t := by
  obtain ⟨front, c, hs, hc⟩ := h
  unfold tokens
  -- the last character of the first text is where both scans can be cut
  rw [String.toList_append, hs, List.append_assoc, List.singleton_append, scan_append_cons _ _ hc,
    scan_append_cons _ _ hc]
  simp only [scan, collected, List.append_nil]

/-- An identifier is one word. -/
theorem tokens_of_isIdentifier {s : String} (h : IsIdentifier s) : tokens s = [.word s] := by
  unfold tokens
  -- the whole text is one word, and it ends with the text
  have hscan := scan_of_word [] (w := s.toList) (fun c hc => h.isContinuation hc) []
  rw [List.append_nil, List.nil_append] at hscan
  rw [hscan, scan]
  obtain ⟨c, cs, hs⟩ := List.exists_cons_of_ne_nil h.toList_ne_nil
  rw [hs, collected, ← hs, String.ofList_toList]

/-! ### Lines -/

/-- The end of a line is no token. -/
theorem tokens_line (line : String) : tokens (line ++ "\n") = tokens line := by
  rw [tokens_append_of_startsApart line ⟨'\n', [], rfl, rfl⟩]
  exact List.append_nil _

/-- A text made of lines is read line by line. -/
theorem tokens_join_lines (lines : List String) :
    tokens (String.join (lines.map (· ++ "\n"))) = lines.flatMap tokens := by
  induction lines with
  | nil => rfl
  | cons line lines ih =>
    have hend : EndsApart (line ++ "\n") := EndsApart.append line ⟨[], '\n', rfl, rfl⟩
    rw [List.map_cons, String.join_cons, tokens_append_of_endsApart hend, ih, tokens_line,
      List.flatMap_cons]

end Netlist.Verilog
