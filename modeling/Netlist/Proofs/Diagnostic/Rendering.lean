import Netlist.Diagnostic.Render
import Netlist.Proofs.Text.Lines

/-!
# Nothing is lost on a terminal

What a terminal shows of a diagnostic is a headline and a line for each detail, and the colours are
around the headline only. Two things are to be shown of it.

Colours are an addition. The headline has no escape character in it, so that the first two colour
sequences of a painted text are the ones around the headline, whatever the message says; a reader
who drops them (`unpainted`) has the plain text (`unpainted_render`).

The plain text tells everything, provided that no text of the diagnostic has a line break. The lines
are then those that were written. The first of them says severity, code and message: the severity
goes to the opening bracket and the code to the closing one, and zeros in front do not change a
number (`value_numberText`). Every other line begins with a mark, which tells a subject, a note and
a help text apart (`Detail.mark`); so the texts of one kind are what stands after its mark, in order
(`filterMap_details`). An empty subject has a line, and no subject has none. Therefore two
diagnostics that look alike are the same (`render_faithful`).
-/

namespace Netlist

/-! ### Headlines -/

/-- Severities are told by their texts. -/
theorem Severity.text_injective {s t : Severity} (h : s.text = t.text) : s = t := by
  revert h
  cases s <;> cases t <;> decide

/-- The text of a severity is made of letters. -/
theorem Severity.isAlphanum_of_mem_text {s : Severity} {c : Char} (h : c ∈ s.text.toList) :
    c.isAlphanum = true := by
  have hletters : s.text.toList.all Char.isAlphanum = true := by
    cases s <;> rfl
  exact List.all_eq_true.1 hletters c h

namespace DiagnosticCode

theorem toList_numberText (n : Nat) : (numberText n).toList =
    List.replicate (3 - (toString n).length) '0' ++ Nat.toDigits 10 n := by
  rw [numberText, String.toList_append, String.toList_ofList, Nat.toString_eq_ofList_toDigits,
    String.toList_ofList]

/-- Zeros in front do not change a number. -/
theorem ofDigitChars_zeros (k : Nat) (digits : List Char) :
    Nat.ofDigitChars 10 (List.replicate k '0' ++ digits) 0 = Nat.ofDigitChars 10 digits 0 := by
  induction k with
  | zero => rfl
  | succ k ih => exact ih

/-- The text of a number has the value of the number. -/
theorem value_numberText (n : Nat) : Nat.ofDigitChars 10 (numberText n).toList 0 = n := by
  rw [toList_numberText, ofDigitChars_zeros]
  exact Nat.ofDigitChars_ten_toDigits

/-- The text of a number is made of digits. -/
theorem isDigit_of_mem_numberText {n : Nat} {c : Char} (h : c ∈ (numberText n).toList) :
    c.isDigit = true := by
  rw [toList_numberText] at h
  rcases List.mem_append.1 h with h | h
  · rw [List.eq_of_mem_replicate h]
    rfl
  · exact Nat.isDigit_of_mem_toDigits (by decide) (by decide) h

theorem toList_text (c : DiagnosticCode) :
    c.text.toList = c.category.letter.toList ++ (numberText c.number.toNat).toList :=
  String.toList_append

/-- The text of a code is made of letters and digits. -/
theorem isAlphanum_of_mem_text {code : DiagnosticCode} {c : Char} (h : c ∈ code.text.toList) :
    c.isAlphanum = true := by
  rw [toList_text] at h
  rcases List.mem_append.1 h with h | h
  · have hletter : code.category.letter.toList.all Char.isAlphanum = true := by
      cases code.category <;> rfl
    exact List.all_eq_true.1 hletter c h
  · rw [Char.isAlphanum, isDigit_of_mem_numberText h, Bool.or_true]

/-- Codes are told by their texts. -/
theorem text_injective {c d : DiagnosticCode} (h : c.text = d.text) : c = d := by
  obtain ⟨category, number⟩ := c
  obtain ⟨category', number'⟩ := d
  have hchars := congrArg String.toList h
  rw [toList_text, toList_text] at hchars
  -- a category is one letter, so that the letters are the same, and what follows them
  obtain ⟨hletter, hdigits⟩ : category = category' ∧
      (numberText number.toNat).toList = (numberText number'.toNat).toList := by
    cases category <;> cases category' <;> simp_all [Category.letter]
  have hnumber : number.toNat = number'.toNat := by
    calc
      number.toNat = Nat.ofDigitChars 10 (numberText number.toNat).toList 0 :=
        (value_numberText _).symm
      _ = Nat.ofDigitChars 10 (numberText number'.toNat).toList 0 := by rw [hdigits]
      _ = number'.toNat := value_numberText _
  rw [hletter, UInt16.toNat_inj.1 hnumber]

end DiagnosticCode

namespace Diagnostic

variable {d e : Diagnostic}

/-- A headline is the text of the severity, and the text of the code in brackets. -/
theorem toList_headline : d.headline.toList =
    d.severity.text.toList ++ '[' :: (d.code.text.toList ++ [']']) := by
  rw [headline, String.toList_append, String.toList_append, String.toList_append]
  simp

/-- No other characters than letters, digits and the two brackets are in a headline. -/
theorem notMem_headline {c : Char} (hc : c.isAlphanum = false) (hopen : c ≠ '[')
    (hclose : c ≠ ']') : c ∉ d.headline.toList := by
  rw [toList_headline]
  intro h
  rcases List.mem_append.1 h with h | h
  · rw [Severity.isAlphanum_of_mem_text h] at hc
    cases hc
  · rcases List.mem_cons.1 h with h | h
    · exact hopen h
    · rcases List.mem_append.1 h with h | h
      · rw [DiagnosticCode.isAlphanum_of_mem_text h] at hc
        cases hc
      · exact hclose (List.mem_singleton.1 h)

/-- The first line says severity, code and message. -/
theorem eq_of_headline (h : d.headline ++ ": " ++ d.message = e.headline ++ ": " ++ e.message) :
    d.severity = e.severity ∧ d.code = e.code ∧ d.message = e.message := by
  have hchars := congrArg String.toList h
  simp only [String.toList_append, toList_headline, List.append_assoc, List.cons_append,
    List.nil_append] at hchars
  -- the severity ends at the first opening bracket, and then the code at the first closing one
  have hopen : ∀ s : Severity, '[' ∉ s.text.toList := by
    intro s hs
    exact absurd (Severity.isAlphanum_of_mem_text hs) (by decide)
  have hclose : ∀ c : DiagnosticCode, ']' ∉ c.text.toList := by
    intro c hc
    exact absurd (DiagnosticCode.isAlphanum_of_mem_text hc) (by decide)
  obtain ⟨hseverity, hrest⟩ := eq_of_append_cons (hopen _) (hopen _) hchars
  obtain ⟨hcode, hmessage⟩ := eq_of_append_cons (hclose _) (hclose _) hrest
  exact ⟨Severity.text_injective (String.toList_inj.1 hseverity),
    DiagnosticCode.text_injective (String.toList_inj.1 hcode),
    String.toList_inj.1 (List.append_cancel_left hmessage)⟩

/-! ### Details -/

/-- The kinds of lines that follow the first. -/
inductive Detail where
  | subject
  | note
  | help
deriving DecidableEq, Repr

/-- What a line of the kind begins with. -/
def Detail.mark : Detail → String
  | subject => "  --> "
  | note => "   = note: "
  | help => "   = help: "

/-- The texts of one kind that a diagnostic has. -/
def texts (d : Diagnostic) : Detail → List String
  | .subject => d.subject.toList
  | .note => d.notes
  | .help => d.help

/-- No mark is the beginning of another. -/
theorem Detail.textAfter?_mark (k l : Detail) (text : String) :
    textAfter? k.mark (l.mark ++ text) = if k = l then some text else none := by
  by_cases hkl : k = l
  · rw [hkl, if_pos rfl, textAfter?_append]
  · rw [if_neg hkl, textAfter?, String.toList_append]
    cases k <;> cases l <;> first | rfl | exact absurd rfl hkl

/-- The details are the subject, the notes and the help texts, each behind its mark. -/
theorem details_eq : d.details =
    [Detail.subject, .note, .help].flatMap fun k => (d.texts k).map (k.mark ++ ·) := by
  obtain ⟨severity, code, message, subject, notes, help⟩ := d
  cases subject <;> simp [details, texts, Detail.mark]

/-- **The texts of one kind are what stands after its mark**, in the order of the lines. -/
theorem filterMap_details (k : Detail) :
    d.details.filterMap (textAfter? k.mark) = d.texts k := by
  have hkind : ∀ l : Detail, ((d.texts l).map (l.mark ++ ·)).filterMap (textAfter? k.mark) =
      if k = l then d.texts l else [] := by
    intro l
    have hread : textAfter? k.mark ∘ (l.mark ++ ·) =
        fun text => if k = l then some text else none :=
      funext (Detail.textAfter?_mark k l)
    rw [List.filterMap_map, hread]
    by_cases hkl : k = l
    · simp only [if_pos hkl, List.filterMap_some]
    · simp only [if_neg hkl, List.filterMap_none]
  rw [details_eq, List.filterMap_flatMap]
  cases k <;> simp [hkind]

/-- The details are told by their lines. -/
theorem eq_of_details (h : d.details = e.details) :
    d.subject = e.subject ∧ d.notes = e.notes ∧ d.help = e.help := by
  have htexts : ∀ k, d.texts k = e.texts k := by
    intro k
    rw [← filterMap_details, h, filterMap_details]
  have hsubject : d.subject = e.subject := by
    have hlist : d.subject.toList = e.subject.toList := htexts .subject
    simpa using congrArg List.head? hlist
  exact ⟨hsubject, htexts .note, htexts .help⟩

/-! ### Plain text -/

/-- No text of the diagnostic has a line break. -/
def HasPlainTexts (d : Diagnostic) : Prop :=
  '\n' ∉ d.message.toList ∧ ∀ k, ∀ text ∈ d.texts k, '\n' ∉ text.toList

/-- The lines are those that were written. -/
theorem linesOf_render (h : d.HasPlainTexts) :
    linesOf (d.render false) = (d.headline ++ ": " ++ d.message) :: d.details := by
  -- no line has a break inside: not the headline, not a mark, and by assumption no text
  refine linesOf_join fun line hline => ?_
  rcases List.mem_cons.1 hline with rfl | hline
  · have hheadline : '\n' ∉ d.headline.toList :=
      notMem_headline (by decide) (by decide) (by decide)
    simpa [paintedHeadline, hheadline] using h.1
  · rw [details_eq] at hline
    obtain ⟨k, -, hk⟩ := List.mem_flatMap.1 hline
    obtain ⟨text, htext, rfl⟩ := List.mem_map.1 hk
    rw [String.toList_append]
    have hmark : '\n' ∉ k.mark.toList := by
      cases k <;> decide
    exact List.not_mem_append hmark (h.2 k text htext)

/-- Diagnostics without line breaks that look alike without colours are the same. -/
theorem eq_of_render_plain (hd : d.HasPlainTexts) (he : e.HasPlainTexts)
    (h : d.render false = e.render false) : d = e := by
  -- the first line tells severity, code and message, and the other lines tell the details
  have hlines := congrArg linesOf h
  rw [linesOf_render hd, linesOf_render he] at hlines
  obtain ⟨hfirst, hdetails⟩ := List.cons.inj hlines
  obtain ⟨hseverity, hcode, hmessage⟩ := eq_of_headline hfirst
  obtain ⟨hsubject, hnotes, hhelp⟩ := eq_of_details hdetails
  cases d
  cases e
  rw [mk.injEq]
  exact ⟨hseverity, hcode, hmessage, hsubject, hnotes, hhelp⟩

/-! ### Colours -/

/-- The character that begins a colour sequence. -/
def escape : Char := '\x1b'

/-- Leaves out a colour sequence in front, which goes from an escape character to a letter `m`. -/
def skipSequence : List Char → List Char
  | [] => []
  | c :: rest => if c = escape then (rest.dropWhile (· ≠ 'm')).drop 1 else c :: rest

/-- **A painted text without its colours**: without the sequence it begins with, and the next. -/
def unpainted (text : String) : String :=
  let shown := skipSequence text.toList
  String.ofList (shown.takeWhile (· ≠ escape) ++ skipSequence (shown.dropWhile (· ≠ escape)))

/-- What is written after severity and code. -/
def afterHeadline (d : Diagnostic) : String :=
  ": " ++ d.message ++ "\n" ++ String.join (d.details.map (· ++ "\n"))

/-- Colours change nothing but the headline. -/
theorem render_eq (colour : Bool) :
    d.render colour = d.paintedHeadline colour ++ d.afterHeadline := by
  rw [render, List.map_cons, String.join_cons, afterHeadline]
  simp only [String.append_assoc]

theorem skipSequence_paint (s : Severity) (rest : List Char) :
    skipSequence (s.paint.toList ++ rest) = rest := by
  cases s <;> rfl

theorem skipSequence_paintReset (rest : List Char) :
    skipSequence (paintReset.toList ++ rest) = rest := rfl

/-- A painted headline loses its colours, and what follows it stays. -/
theorem unpainted_paintedHeadline (rest : String) :
    unpainted (d.paintedHeadline true ++ rest) = d.headline ++ rest := by
  have hplain : ∀ c ∈ d.headline.toList, decide (c ≠ escape) = true := by
    intro c hc
    refine decide_eq_true fun h => ?_
    rw [h] at hc
    exact notMem_headline (by decide) (by decide) (by decide) hc
  -- the next sequence is the one behind the headline, because it begins with an escape character
  have hreset : (paintReset.toList ++ rest.toList).takeWhile (· ≠ escape) = [] ∧
      (paintReset.toList ++ rest.toList).dropWhile (· ≠ escape) =
        paintReset.toList ++ rest.toList := ⟨rfl, rfl⟩
  have hpainted : (d.paintedHeadline true ++ rest).toList =
      d.severity.paint.toList ++ (d.headline.toList ++ (paintReset.toList ++ rest.toList)) := by
    simp [paintedHeadline]
  unfold unpainted
  rw [hpainted, skipSequence_paint]
  simp only
  rw [List.takeWhile_append_of_pos hplain, List.dropWhile_append_of_pos hplain, hreset.1, hreset.2,
    skipSequence_paintReset, List.append_nil, ← String.toList_append, String.ofList_toList]

/-- Without its colours a painted text is the plain one. -/
theorem unpainted_render : unpainted (d.render true) = d.render false := by
  rw [render_eq, render_eq, unpainted_paintedHeadline]
  rfl

/-! ### Faithfulness -/

/-- **What a terminal shows is faithful.** The text with colours is the text without them but for
two sequences around severity and code: the one that switches the colour of the severity on, and the
one that switches colours off. A reader of the text alone can drop the two. And if no text of two
diagnostics has a line break, they are the same as soon as they look the same, be it with or without
colours. -/
theorem render_faithful :
    (∀ d : Diagnostic,
      (∃ rest, d.render true = d.severity.paint ++ d.headline ++ paintReset ++ rest ∧
        d.render false = d.headline ++ rest) ∧
      unpainted (d.render true) = d.render false) ∧
    ∀ d e : Diagnostic, d.HasPlainTexts → e.HasPlainTexts →
      ∀ colour, d.render colour = e.render colour → d = e := by
  constructor
  · intro d
    exact ⟨⟨d.afterHeadline, render_eq true, render_eq false⟩, unpainted_render⟩
  · intro d e hd he colour hsame
    cases colour with
    | false => exact eq_of_render_plain hd he hsame
    | true =>
      have hplain := congrArg unpainted hsame
      rw [unpainted_render, unpainted_render] at hplain
      exact eq_of_render_plain hd he hplain

/-- A message with a sequence that switches colours off, an empty subject against none, and a note
that begins like a help text against a help text: the two are told apart in spite of their
colours. -/
theorem render_faithful_lookalikes :
    let d : Diagnostic := ⟨.note, ⟨.warning, 7⟩, "\x1b[0m[E300]: a", some "", ["   = help: b"], []⟩
    let e : Diagnostic := ⟨.note, ⟨.warning, 7⟩, "\x1b[0m[E300]: a", none, [], ["b"]⟩
    d.HasPlainTexts ∧ e.HasPlainTexts ∧ d.render true ≠ e.render true ∧
      unpainted (d.render true) = d.render false := by
  intro d e
  have hd : d.HasPlainTexts := ⟨by decide, fun k => by cases k <;> decide⟩
  have he : e.HasPlainTexts := ⟨by decide, fun k => by cases k <;> decide⟩
  refine ⟨hd, he, fun hsame => ?_, (render_faithful.1 d).2⟩
  exact absurd (render_faithful.2 d e hd he true hsame) (by decide)

/-- With a line break inside, a message can pass for a message and a subject. -/
example : (error 300 "odd\n  --> a").render false =
    ((error 300 "odd").withSubject "a").render false := rfl

end Diagnostic

end Netlist
