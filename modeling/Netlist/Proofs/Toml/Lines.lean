import Mathlib.Data.List.Basic
import Netlist.Proofs.Names.Identifier
import Netlist.Toml.Document

/-!
# Plain documents

A configuration text can be written in many ways; a program that writes one uses few of them. A
`Line` is a line of such a text: nothing, a header, or a key with a text or a list of texts, all on
one line, with keys that need no quotes and texts that need no escapes. This file shows that what is
written in this way is read back as it was meant, whatever the texts are: a line states what it was
written for (`statement?_written`), and a document states what its lines do, one after the other
(`statements?_document`).

Every reader is given the written thing and any text that may follow it, and has to stop between the
two. The induction over the lines of a document is made with fuel to spare, because the reader of a
whole text takes the number of its characters for the number of its lines.
-/

namespace Netlist.Toml

/-! ### Plain words and texts -/

/-- A key that is written without quotes. -/
def IsBareKey (key : String) : Prop :=
  key.toList ≠ [] ∧ key.toList.all isBareKey = true

/-- A character that stands for itself between double quotes. -/
def isPlain (c : Char) : Bool :=
  isText c && c != '"' && c != '\\'

/-- A text that is written without escapes. -/
def IsPlainText (text : String) : Prop :=
  text.toList.all isPlain = true

instance (key : String) : Decidable (IsBareKey key) :=
  inferInstanceAs (Decidable (_ ∧ _))

instance (text : String) : Decidable (IsPlainText text) :=
  inferInstanceAs (Decidable (_ = true))

/-- No reader of blanks, quotes or punctuation takes a character of a key for its own. -/
theorem ne_of_isBareKey {c d : Char} (hc : isBareKey c = true) (hd : isBareKey d = false) :
    c ≠ d := by
  rintro rfl
  rw [hc] at hd
  cases hd

theorem isBlank_of_isBareKey {c : Char} (h : isBareKey c = true) : isBlank c = false := by
  rw [isBlank, Bool.or_eq_false_iff, beq_eq_false_iff_ne, beq_eq_false_iff_ne]
  exact ⟨ne_of_isBareKey h (by decide), ne_of_isBareKey h (by decide)⟩

/-- The characters from the blank to the tilde may stand in a text. -/
theorem isText_of_le {c lo hi : Char} (hlo : 32 ≤ lo.toNat) (hhi : hi.toNat < 127)
    (h : lo ≤ c) (h' : c ≤ hi) : isText c = true := by
  have hle : lo.toNat ≤ c.toNat := UInt32.le_iff_toNat_le.1 h
  have hle' : c.toNat ≤ hi.toNat := UInt32.le_iff_toNat_le.1 h'
  simp only [isText, Bool.or_eq_true, Bool.and_eq_true, decide_eq_true_eq]
  omega

/-- Every character of a key may stand in a text. -/
theorem isText_of_isBareKey {c : Char} (h : isBareKey c = true) : isText c = true := by
  rw [isBareKey, ← Identifier.isContinuation, Bool.or_eq_true, Identifier.isContinuation_iff,
    beq_iff_eq] at h
  rcases h with ((⟨h, h'⟩ | ⟨h, h'⟩) | ⟨h, h'⟩ | rfl) | rfl
  · exact isText_of_le (by decide) (by decide) h h'
  · exact isText_of_le (by decide) (by decide) h h'
  · exact isText_of_le (by decide) (by decide) h h'
  · decide
  · decide

/-- No character of a key needs an escape. -/
theorem isPlain_of_isBareKey {c : Char} (h : isBareKey c = true) : isPlain c = true := by
  have hquote : c ≠ '"' := ne_of_isBareKey h (by decide)
  have hbackslash : c ≠ '\\' := ne_of_isBareKey h (by decide)
  rw [isPlain, isText_of_isBareKey h, Bool.true_and, Bool.and_eq_true, bne_iff_ne, bne_iff_ne]
  exact ⟨hquote, hbackslash⟩

theorem skipBlanks_cons {c : Char} (h : isBlank c = false) (rest : List Char) :
    skipBlanks (c :: rest) = c :: rest := by
  rw [skipBlanks, List.dropWhile_cons_of_neg (Bool.eq_false_iff.1 h)]

/-! ### Keys -/

/-- The parts of a key with dots between them. -/
def writtenParts : (parents : List String) → (last : String) → List Char
  | [], last => last.toList
  | part :: parents, last => part.toList ++ '.' :: writtenParts parents last

/-- A key as it is written. -/
def KeyPath.written (key : KeyPath) : List Char :=
  writtenParts key.parents key.last

/-- A key that can be written without quotes, and is not too long. -/
structure KeyPath.IsPlain (key : KeyPath) : Prop where
  parents : ∀ part ∈ key.parents, IsBareKey part
  last : IsBareKey key.last
  length : key.parents.length < depthLimit

instance (key : KeyPath) : Decidable key.IsPlain :=
  decidable_of_iff ((∀ part ∈ key.parents, IsBareKey part) ∧ IsBareKey key.last ∧
    key.parents.length < depthLimit) ⟨fun h => ⟨h.1, h.2.1, h.2.2⟩, fun h => ⟨h.1, h.2, h.3⟩⟩

/-- What may follow a key: no character of a key, and no dot even after blanks. -/
structure EndsKey (rest : List Char) : Prop where
  stops : rest.takeWhile isBareKey = []
  undotted : (skipBlanks rest).head? ≠ some '.'

/-- A part of a key is read back, up to what cannot belong to it. -/
theorem simpleKey?_written {key : String} (h : IsBareKey key) {rest : List Char}
    (hrest : rest.takeWhile isBareKey = []) :
    simpleKey? (skipBlanks (key.toList ++ rest)) = some (key, rest) := by
  obtain ⟨hne, hall⟩ := h
  -- the reader takes the characters of the key, and stops at what follows
  have hbare : bareKey? (key.toList ++ rest) = some (key, rest) := by
    have hwhile := List.all_eq_true.1 hall
    have hdrop : rest.dropWhile isBareKey = rest := by
      have hsplit := List.takeWhile_append_dropWhile (p := isBareKey) (l := rest)
      rwa [hrest] at hsplit
    rw [bareKey?, List.takeWhile_append_of_pos hwhile, List.dropWhile_append_of_pos hwhile, hrest,
      hdrop, List.append_nil]
    split
    · next hnil => exact absurd hnil hne
    · rw [String.ofList_toList]
  obtain ⟨c, cs, hkey⟩ := List.exists_cons_of_ne_nil hne
  rw [hkey] at hbare hall ⊢
  have hc : isBareKey c = true := List.all_eq_true.1 hall c List.mem_cons_self
  rw [List.cons_append] at hbare ⊢
  rw [skipBlanks_cons (isBlank_of_isBareKey hc), simpleKey?, Reader.orElse]
  -- a key that starts with a quote is a text
  have hquote : shortString? (c :: (cs ++ rest)) = none := by
    have hdouble : c ≠ '"' := ne_of_isBareKey hc (by decide)
    have hsingle : c ≠ singleQuote := ne_of_isBareKey hc (by decide)
    unfold shortString?
    split
    · next heq => exact absurd (List.cons.inj heq).1 hdouble
    · next heq =>
      obtain ⟨rfl, rfl⟩ := List.cons.inj heq
      rw [if_neg (by simpa using hsingle)]
    · rfl
  rw [hquote]
  exact hbare

theorem keyParts?_written {parents : List String} {last : String} {count : Nat} {rest : List Char}
    (hparents : ∀ part ∈ parents, IsBareKey part) (hlast : IsBareKey last)
    (hcount : parents.length < count) (hrest : EndsKey rest) :
    keyParts? count (writtenParts parents last ++ rest) =
      some (parents ++ [last], skipBlanks rest) := by
  -- on the parts in front of the last, each of which is followed by a dot
  induction parents generalizing count with
  | nil =>
    obtain ⟨count, rfl⟩ := Nat.exists_eq_add_one_of_ne_zero (Nat.ne_zero_of_lt hcount)
    rw [keyParts?, writtenParts, simpleKey?_written hlast hrest.stops]
    dsimp only [bind, Option.bind]
    split
    · next heq => exact absurd (congrArg List.head? heq) hrest.undotted
    · rfl
  | cons part parents ih =>
    obtain ⟨count, rfl⟩ := Nat.exists_eq_add_one_of_ne_zero (Nat.ne_zero_of_lt hcount)
    obtain ⟨hpart, hparents⟩ := List.forall_mem_cons.1 hparents
    rw [keyParts?, writtenParts, List.append_assoc,
      simpleKey?_written hpart (by rw [List.cons_append]; rfl), List.cons_append]
    have hmore := ih hparents (Nat.lt_of_succ_lt_succ hcount)
    show (keyParts? count).map (part :: ·) (writtenParts parents last ++ rest) = _
    rw [Reader.map, hmore]
    rfl

/-- **A key is read back.** -/
theorem keyPath?_written {key : KeyPath} (h : key.IsPlain) {rest : List Char}
    (hrest : EndsKey rest) : keyPath? (key.written ++ rest) = some (key, skipBlanks rest) := by
  rw [keyPath?, KeyPath.written, keyParts?_written h.parents h.last h.length hrest]
  dsimp only [bind, Option.bind]
  rw [List.getLast?_concat, List.dropLast_concat]
  rfl

/-! ### Texts -/

/-- A text between double quotes. -/
def quoted (text : String) : List Char :=
  '"' :: (text.toList ++ ['"'])

/-- A text without escapes is read back up to its closing quote. -/
theorem basicFrom_written {cs : List Char} (h : cs.all isPlain = true) (trimming : Bool)
    (rest : List Char) : basicFrom (.plain trimming) (cs ++ '"' :: rest) = some (cs, rest) := by
  -- character by character: each stands for itself
  induction cs generalizing trimming with
  | nil => rw [List.nil_append, basicFrom]
  | cons c cs ih =>
    rw [List.all_cons, Bool.and_eq_true] at h
    obtain ⟨hc, hcs⟩ := h
    simp only [isPlain, Bool.and_eq_true, bne_iff_ne] at hc
    obtain ⟨⟨htext, hquote⟩, hbackslash⟩ := hc
    rw [List.cons_append, basicFrom, if_pos htext, ih hcs, consFound, Option.map_some]
    · exact fun heq => hquote heq
    · exact fun heq => hbackslash heq

/-- A text between double quotes is read back, if no quote follows. -/
theorem string?_written {text : String} (h : IsPlainText text) {rest : List Char}
    (hrest : rest.head? ≠ some '"') : string? (quoted text ++ rest) = some (text, rest) := by
  have hcs : quoted text ++ rest = '"' :: (text.toList ++ '"' :: rest) := by
    rw [quoted, List.cons_append, List.append_assoc]
    rfl
  -- three quotes in a row would open a text of several lines
  have hdouble : ('"' :: (text.toList ++ '"' :: rest)).take 3 ≠ tripled '"' := by
    intro heq
    unfold IsPlainText at h
    cases htext : text.toList with
    -- an empty text has two quotes in a row, so what follows has to be looked at
    | nil =>
      rw [htext] at heq
      cases rest with
      | nil => cases heq
      | cons c rest =>
        have hthird : c = '"' := (List.cons.inj (List.cons.inj (List.cons.inj heq).2).2).1
        exact hrest (hthird ▸ rfl)
    | cons c cs =>
      rw [htext] at heq h
      have hsecond : c = '"' := (List.cons.inj (List.cons.inj heq).2).1
      subst hsecond
      cases h
  have hsingle : ('"' :: (text.toList ++ '"' :: rest)).take 3 ≠ tripled singleQuote := by
    intro heq
    exact absurd (List.cons.inj heq).1 (by decide)
  rw [hcs, string?, if_neg (by simpa using hdouble), if_neg (by simpa using hsingle)]
  show (basicFrom (.plain false)).map String.ofList (text.toList ++ '"' :: rest) = _
  rw [Reader.map, basicFrom_written h, Option.map_some, String.ofList_toList]

/-- A text is read where a value is expected, however deep it is. -/
theorem valueWithin?_quoted {text : String} (h : IsPlainText text) (depth : Nat) {rest : List Char}
    (hrest : rest.head? ≠ some '"') :
    valueWithin? depth (quoted text ++ rest) = some (.string text, rest) := by
  have hscalar : scalar? (quoted text ++ rest) = some (.string text, rest) := by
    have hstring := string?_written h hrest
    show (string?.map Value.string).orElse _ (quoted text ++ rest) = _
    rw [Reader.orElse, Reader.map, hstring]
    rfl
  cases depth with
  | zero => exact hscalar
  | succ depth => exact hscalar

/-! ### Lists of texts -/

/-- The items of a list and its closing bracket. -/
def writtenItems : List String → List Char
  | [] => [']']
  | [text] => quoted text ++ [']']
  | text :: next :: rest => quoted text ++ ',' :: ' ' :: writtenItems (next :: rest)

theorem length_lt_length_writtenItems (texts : List String) :
    texts.length < (writtenItems texts).length := by
  induction texts with
  | nil => exact Nat.zero_lt_one
  | cons text rest ih =>
    cases rest with
    | nil => simp [writtenItems, quoted]
    | cons next rest =>
      simp only [writtenItems, List.length_append, List.length_cons] at ih ⊢
      omega

/-- Blanks in front of an item do not count. -/
theorem arrayItems?_blank (value : Reader Value) (fuel : Nat) (cs : List Char) :
    arrayItems? value fuel (' ' :: cs) = arrayItems? value fuel cs := by
  cases fuel with
  | zero => rfl
  | succ fuel =>
    have hgap : skipGap (' ' :: cs) = skipGap cs := rfl
    rw [arrayItems?, arrayItems?, hgap]

/-- The items of a list are read back. -/
theorem arrayItems?_written {texts : List String} (h : ∀ text ∈ texts, IsPlainText text)
    (depth : Nat) {fuel : Nat} (hfuel : texts.length < fuel) (rest : List Char) :
    arrayItems? (valueWithin? depth) fuel (writtenItems texts ++ rest) =
      some (texts.map Value.string, rest) := by
  -- on the texts, with fuel for each of them and to spare
  induction texts generalizing fuel with
  | nil =>
    obtain ⟨fuel, rfl⟩ := Nat.exists_eq_add_one_of_ne_zero (Nat.ne_zero_of_lt hfuel)
    rfl
  | cons text texts ih =>
    obtain ⟨fuel, rfl⟩ := Nat.exists_eq_add_one_of_ne_zero (Nat.ne_zero_of_lt hfuel)
    obtain ⟨htext, htexts⟩ := List.forall_mem_cons.1 h
    cases texts with
    | nil =>
      have hvalue : valueWithin? depth (quoted text ++ ']' :: rest) =
          some (.string text, ']' :: rest) := valueWithin?_quoted htext depth (by simp)
      rw [writtenItems, List.append_assoc]
      show (valueWithin? depth (quoted text ++ ']' :: rest)).bind _ = _
      rw [hvalue]
      rfl
    | cons next texts =>
      have hmore := ih htexts (Nat.lt_of_succ_lt_succ hfuel)
      have hvalue : valueWithin? depth
          (quoted text ++ ',' :: ' ' :: (writtenItems (next :: texts) ++ rest)) =
          some (.string text, ',' :: ' ' :: (writtenItems (next :: texts) ++ rest)) :=
        valueWithin?_quoted htext depth (by simp)
      rw [writtenItems, List.append_assoc]
      show (valueWithin? depth (quoted text ++
        ',' :: ' ' :: (writtenItems (next :: texts) ++ rest))).bind _ = _
      rw [hvalue]
      show (arrayItems? (valueWithin? depth) fuel).map (Value.string text :: ·)
        (' ' :: (writtenItems (next :: texts) ++ rest)) = _
      rw [Reader.map, arrayItems?_blank, hmore]
      rfl

/-- A list of texts is read as long as it is not too deep. -/
theorem valueWithin?_writtenItems {texts : List String} (h : ∀ text ∈ texts, IsPlainText text)
    (depth : Nat) (rest : List Char) :
    valueWithin? (depth + 1) ('[' :: (writtenItems texts ++ rest)) =
      some (.array (texts.map Value.string), rest) := by
  have hfuel : texts.length < (writtenItems texts ++ rest).length + 1 := by
    have hitems := length_lt_length_writtenItems texts
    rw [List.length_append]
    omega
  rw [valueWithin?, Reader.map, arrayItems?_written h depth hfuel]
  rfl

/-! ### Lines -/

/-- A line of a plain document. -/
inductive Line where
  | blank
  | table (key : KeyPath)
  | element (key : KeyPath)
  | text (key : KeyPath) (value : String)
  | texts (key : KeyPath) (values : List String)
deriving DecidableEq, Repr

namespace Line

/-- The characters of a line. -/
def written : Line → List Char
  | blank => []
  | table key => '[' :: (key.written ++ [']'])
  | element key => '[' :: '[' :: (key.written ++ [']', ']'])
  | text key value => key.written ++ ' ' :: '=' :: ' ' :: quoted value
  | texts key values => key.written ++ ' ' :: '=' :: ' ' :: '[' :: writtenItems values

/-- What a line is written for. -/
def states : Line → Option Statement
  | blank => none
  | table key => some (.table key)
  | element key => some (.element key)
  | text key value => some (.keyValue key (.string value))
  | texts key values => some (.keyValue key (.array (values.map Value.string)))

/-- A line that needs neither quotes around its keys nor escapes in its texts. -/
def IsPlain : Line → Prop
  | blank => True
  | table key => key.IsPlain
  | element key => key.IsPlain
  | text key value => key.IsPlain ∧ IsPlainText value
  | texts key values => key.IsPlain ∧ ∀ value ∈ values, IsPlainText value

instance : DecidablePred IsPlain
  | blank => inferInstanceAs (Decidable True)
  | table key => inferInstanceAs (Decidable key.IsPlain)
  | element key => inferInstanceAs (Decidable key.IsPlain)
  | text _ _ => inferInstanceAs (Decidable (_ ∧ _))
  | texts _ _ => inferInstanceAs (Decidable (_ ∧ ∀ value ∈ _, _))

end Line

theorem exists_writtenParts_eq_cons {parents : List String} {last : String}
    (hparents : ∀ part ∈ parents, IsBareKey part) (hlast : IsBareKey last) :
    ∃ c rest, writtenParts parents last = c :: rest ∧ isBareKey c = true := by
  have hhead : ∀ {key : String}, IsBareKey key →
      ∃ c rest, key.toList = c :: rest ∧ isBareKey c = true := by
    rintro key ⟨hne, hall⟩
    obtain ⟨c, rest, hkey⟩ := List.exists_cons_of_ne_nil hne
    rw [hkey] at hall
    exact ⟨c, rest, hkey, List.all_eq_true.1 hall c List.mem_cons_self⟩
  -- the first part comes first, be it the last as well or not
  cases parents with
  | nil => exact hhead hlast
  | cons part parents =>
    obtain ⟨c, rest, hpart, hc⟩ := hhead (hparents part List.mem_cons_self)
    exact ⟨c, rest ++ '.' :: writtenParts parents last, by rw [writtenParts, hpart]; rfl, hc⟩

theorem KeyPath.IsPlain.exists_written_eq_cons {key : KeyPath} (h : key.IsPlain) :
    ∃ c rest, key.written = c :: rest ∧ isBareKey c = true :=
  exists_writtenParts_eq_cons h.parents h.last

/-- A line with a key and a value, of which the value is known to be read back. -/
theorem statement?_keyValue {key : KeyPath} (hkey : key.IsPlain) {written rest : List Char}
    {v : Value} (hblank : skipBlanks written = written) (hvalue : value? written = some (v, rest)) :
    statement? (key.written ++ ' ' :: '=' :: ' ' :: written) = some (.keyValue key v, rest) := by
  have hends : EndsKey (' ' :: '=' :: ' ' :: written) := ⟨rfl, by simp [skipBlanks, isBlank]⟩
  have hread : keyValue? value? (key.written ++ ' ' :: '=' :: ' ' :: written) =
      some ((key, v), rest) := by
    rw [keyValue?, keyPath?_written hkey hends]
    show (value?.map (key, ·)) (skipBlanks (' ' :: written)) = _
    have hskip : skipBlanks (' ' :: written) = written := hblank
    rw [hskip, Reader.map, hvalue]
    rfl
  obtain ⟨c, cs, hwritten, hc⟩ := hkey.exists_written_eq_cons
  rw [hwritten, List.cons_append] at hread ⊢
  unfold statement?
  split
  · next heq => exact absurd (List.cons.inj heq).1 (ne_of_isBareKey hc (by decide))
  · rw [Reader.map, hread]
    rfl

/-- **A line states what it was written for.** -/
theorem statement?_written {l : Line} (h : l.IsPlain) {s : Statement} (hs : l.states = some s)
    (rest : List Char) : statement? (l.written ++ '\n' :: rest) = some (s, '\n' :: rest) := by
  cases l with
  | blank => cases hs
  | table key =>
    obtain rfl := Option.some.inj hs
    have hkey : key.IsPlain := h
    have hends : EndsKey (']' :: '\n' :: rest) := ⟨rfl, by simp [skipBlanks, isBlank]⟩
    have hread := keyPath?_written hkey hends
    obtain ⟨c, cs, hwritten, hc⟩ := hkey.exists_written_eq_cons
    rw [Line.written, List.cons_append, List.append_assoc]
    -- a second bracket would make it the header of an element, and no key starts with one
    show header? (key.written ++ ']' :: '\n' :: rest) = _
    rw [hwritten, List.cons_append] at hread ⊢
    unfold header?
    split
    · next heq => exact absurd (List.cons.inj heq).1 (ne_of_isBareKey hc (by decide))
    · rw [hread]
      rfl
  | element key =>
    obtain rfl := Option.some.inj hs
    have hkey : key.IsPlain := h
    have hends : EndsKey (']' :: ']' :: '\n' :: rest) := ⟨rfl, by simp [skipBlanks, isBlank]⟩
    have hread := keyPath?_written hkey hends
    rw [Line.written, List.cons_append, List.cons_append, List.append_assoc]
    show (keyPath? (key.written ++ ']' :: ']' :: '\n' :: rest)).bind _ = _
    rw [hread]
    rfl
  | text key value =>
    obtain rfl := Option.some.inj hs
    obtain ⟨hkey, hvalue⟩ := h
    have hread : value? (quoted value ++ '\n' :: rest) = some (.string value, '\n' :: rest) :=
      valueWithin?_quoted hvalue depthLimit (by simp)
    have hstatement := statement?_keyValue hkey rfl hread
    rw [Line.written, List.append_assoc]
    exact hstatement
  | texts key values =>
    obtain rfl := Option.some.inj hs
    obtain ⟨hkey, hvalues⟩ := h
    have hread := valueWithin?_writtenItems hvalues (depthLimit - 1) ('\n' :: rest)
    have hstatement := statement?_keyValue hkey rfl hread
    rw [Line.written, List.append_assoc]
    exact hstatement

/-! ### Documents -/

/-- The characters of a document, every line with its end. -/
def document (lines : List Line) : List Char :=
  lines.flatMap fun l => l.written ++ ['\n']

/-- What the lines of a document are written for. -/
def statesAll (lines : List Line) : List Statement :=
  lines.filterMap Line.states

/-- A line that states something starts with a bracket or a key. -/
theorem exists_written_eq_cons {l : Line} (h : l.IsPlain) {s : Statement} (hs : l.states = some s) :
    ∃ c rest, l.written = c :: rest ∧ (c = '[' ∨ isBareKey c = true) := by
  cases l with
  | blank => cases hs
  | table key => exact ⟨'[', _, rfl, Or.inl rfl⟩
  | element key => exact ⟨'[', _, rfl, Or.inl rfl⟩
  | text key value =>
    have hkey : key.IsPlain := h.1
    obtain ⟨c, rest, hwritten, hc⟩ := hkey.exists_written_eq_cons
    exact ⟨c, _, by rw [Line.written, hwritten, List.cons_append], Or.inr hc⟩
  | texts key values =>
    have hkey : key.IsPlain := h.1
    obtain ⟨c, rest, hwritten, hc⟩ := hkey.exists_written_eq_cons
    exact ⟨c, _, by rw [Line.written, hwritten, List.cons_append], Or.inr hc⟩

/-- Where a statement starts, no line ends. -/
theorem endOfLine?_cons {c : Char} (hc : c = '[' ∨ isBareKey c = true) (rest : List Char) :
    endOfLine? (c :: rest) = none ∧ skipBlanks (c :: rest) = c :: rest := by
  have hne : ∀ {d : Char}, isBareKey d = false → d ≠ '[' → c ≠ d := by
    intro d hd hbracket
    rcases hc with rfl | hc
    · exact hbracket.symm
    · exact ne_of_isBareKey hc hd
  have hblank : isBlank c = false := by
    rw [isBlank, Bool.or_eq_false_iff, beq_eq_false_iff_ne, beq_eq_false_iff_ne]
    exact ⟨hne (by decide) (by decide), hne (by decide) (by decide)⟩
  have hskip := skipBlanks_cons hblank rest
  refine ⟨?_, hskip⟩
  rw [endOfLine?, hskip]
  split
  · next heq => exact absurd (List.cons.inj heq).1 (hne (by decide) (by decide))
  · unfold afterNewline?
    split
    · next heq => cases heq
    · next heq => exact absurd (List.cons.inj heq).1 (hne (by decide) (by decide))
    · next heq => exact absurd (List.cons.inj heq).1 (hne (by decide) (by decide))
    · rfl

theorem statementsWithin?_document {lines : List Line} (h : ∀ l ∈ lines, l.IsPlain) {fuel : Nat}
    (hfuel : lines.length ≤ fuel) :
    statementsWithin? fuel (document lines) = some (statesAll lines) := by
  -- line by line; each takes one unit of fuel, as it does from the reader
  induction lines generalizing fuel with
  | nil =>
    show statementsWithin? fuel [] = some []
    cases fuel <;> rfl
  | cons l lines ih =>
    obtain ⟨fuel, rfl⟩ := Nat.exists_eq_add_one_of_ne_zero
      (Nat.ne_zero_of_lt (Nat.lt_of_succ_le hfuel))
    obtain ⟨hl, hlines⟩ := List.forall_mem_cons.1 h
    have hmore := ih hlines (Nat.le_of_succ_le_succ hfuel)
    have hcons : document (l :: lines) = l.written ++ '\n' :: document lines := by
      rw [document, List.flatMap_cons, List.append_assoc]
      rfl
    rw [hcons]
    cases hs : l.states with
    | none =>
      -- only a blank line states nothing
      cases l with
      | blank => exact hmore
      | _ => cases hs
    | some s =>
      have hread := statement?_written hl hs (document lines)
      obtain ⟨c, rest, hwritten, hc⟩ := exists_written_eq_cons hl hs
      rw [hwritten, List.cons_append] at hread ⊢
      obtain ⟨hline, hskip⟩ := endOfLine?_cons hc (rest ++ '\n' :: document lines)
      simp only [statementsWithin?, hline, hskip, hread]
      show (statementsWithin? fuel (document lines)).bind (fun ss => some (s :: ss)) = _
      rw [hmore, statesAll, statesAll, List.filterMap_cons_some hs]
      rfl

theorem length_le_length_document (lines : List Line) :
    lines.length ≤ (document lines).length := by
  induction lines with
  | nil => exact Nat.le_refl 0
  | cons l lines ih =>
    rw [document, List.flatMap_cons, List.length_append, List.length_append, List.length_cons]
    have hmore : lines.length ≤ (lines.flatMap fun l => l.written ++ ['\n']).length := ih
    rw [List.length_singleton]
    omega

/-- **A plain document states what its lines are written for.** -/
theorem statements?_document {lines : List Line} (h : ∀ l ∈ lines, l.IsPlain) :
    statements? (document lines) = some (statesAll lines) :=
  statementsWithin?_document h (length_le_length_document lines)

/-- The document starts with no mark. -/
theorem skipByteOrderMark_document {lines : List Line} (h : ∀ l ∈ lines, l.IsPlain) :
    skipByteOrderMark (document lines) = document lines := by
  have hcons : ∀ {c : Char} (rest : List Char), c.toNat ≠ 0xFEFF →
      skipByteOrderMark (c :: rest) = c :: rest := by
    intro c rest hc
    rw [skipByteOrderMark, if_neg hc]
  cases lines with
  | nil => rfl
  | cons l lines =>
    rw [document, List.flatMap_cons]
    -- the first character is a line break, a bracket or one of a key
    cases hs : l.states with
    | none =>
      cases l with
      | blank => exact hcons _ (by decide)
      | _ => cases hs
    | some s =>
      obtain ⟨c, rest, hwritten, hc⟩ := exists_written_eq_cons (h l List.mem_cons_self) hs
      rw [hwritten, List.cons_append]
      refine hcons _ ?_
      rcases hc with rfl | hc
      · decide
      · rintro hmark
        obtain rfl : c = Char.ofNat 0xFEFF := by rw [← hmark, Char.ofNat_toNat]
        revert hc
        decide

/-- **The table that a plain document describes.** -/
theorem parse?_of_document {text : String} {lines : List Line}
    (htext : text.toList = document lines) (h : ∀ l ∈ lines, l.IsPlain) : parse? text =
      (Draft.followAll? (statesAll lines) .empty).bind fun draft =>
        draft.close?.map Items.toTable := by
  rw [parse?, htext, skipByteOrderMark_document h, statements?_document h]
  show ((Draft.followAll? (statesAll lines) .empty).bind fun draft =>
    draft.close?.bind fun items => some items.toTable) = _
  simp only [Option.map_eq_bind]
  rfl

/-- Following statements can be interrupted. -/
theorem Draft.followAll?_append (first rest : List Statement) (d : Draft) :
    Draft.followAll? (first ++ rest) d =
      (Draft.followAll? first d).bind (Draft.followAll? rest) := by
  -- on the statements that come first, from any draft
  induction first generalizing d with
  | nil => rfl
  | cons s first ih =>
    show (d.follow? s).bind _ = ((d.follow? s).bind _).bind _
    rw [Option.bind_assoc]
    exact congrArg _ (funext ih)

end Netlist.Toml
