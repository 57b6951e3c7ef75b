import Netlist.Chip.Instances
import Netlist.Chip.Nets

/-!
# Names made from names

The library makes names by gluing: a strobe's and an acknowledge's from the name of a net, an
automatic wire's from a number, an instance's from a number and a component, and a suffixed form
from a base. None of these is ever checked again, so this file shows that none has to be: every
one of them is an identifier (`isIdentifier_of_mem_handshake`, `isIdentifier_wireBase`,
`isIdentifier_instanceBase`, `isIdentifier_suffixed`).

The one thing that could go wrong is a reserved word, and no reserved word has an underscore
(`not_mem_reservedWords_of_underscore`), while every glued name has one.

Which characters a name has is said by their ranges (`isStart_iff`, `isContinuation_iff`).

The second part is about the three names of one net: they differ from each other
(`nodup_handshake`), and for names that end in a digit they determine the net's name
(`eq_of_mem_handshake`).
-/

namespace Netlist

/-! ### Characters by their ranges -/

namespace Identifier

/-- An ASCII letter. -/
def IsLetter (c : Char) : Prop :=
  ('a' ≤ c ∧ c ≤ 'z') ∨ ('A' ≤ c ∧ c ≤ 'Z')

/-- A decimal digit. -/
def IsDecimal (c : Char) : Prop :=
  '0' ≤ c ∧ c ≤ '9'

theorem isAlpha_iff {c : Char} : c.isAlpha = true ↔ IsLetter c := by
  have hranges : c.isAlpha = (decide ('A' ≤ c ∧ c ≤ 'Z') ||
      (decide ('a' ≤ c) && decide (c ≤ 'z'))) := rfl
  simp only [hranges, IsLetter, Bool.or_eq_true, Bool.and_eq_true, decide_eq_true_eq]
  exact or_comm

theorem isDigit_iff {c : Char} : c.isDigit = true ↔ IsDecimal c := by
  have hrange : c.isDigit = (decide ('0' ≤ c) && decide (c ≤ '9')) := rfl
  simp only [hrange, IsDecimal, Bool.and_eq_true, decide_eq_true_eq]

theorem isStart_iff {c : Char} : isStart c = true ↔ IsLetter c ∨ c = '_' := by
  rw [isStart, Bool.or_eq_true, isAlpha_iff, beq_iff_eq]

/-- An identifier goes on with letters, digits and underscores. -/
theorem isContinuation_iff {c : Char} :
    isContinuation c = true ↔ IsLetter c ∨ IsDecimal c ∨ c = '_' := by
  rw [isContinuation, Bool.or_eq_true, Char.isAlphanum, Bool.or_eq_true, isAlpha_iff, isDigit_iff,
    beq_iff_eq, or_assoc]

end Identifier

open Identifier

/-! ### Identifiers and their characters -/

/-- No word with an underscore is in the table of reserved words. -/
theorem not_mem_reservedWords_of_underscore {name : String} (h : '_' ∈ name.toList) :
    name ∉ reservedWords := by
  -- said of the table as it stands, so a change of the table is checked again
  have hnone : ∀ word ∈ reservedWords, '_' ∉ word.toList := by decide +kernel
  exact fun hmem => hnone name hmem h

/-- Every character of an identifier is one that may continue it, the first included. -/
theorem IsIdentifier.isContinuation {name : String} (h : IsIdentifier name) {c : Char}
    (hc : c ∈ name.toList) : Identifier.isContinuation c = true := by
  obtain ⟨d, rest, hname, hstart, hrest, -⟩ := isIdentifier_iff.1 h
  rw [hname] at hc
  rcases List.mem_cons.1 hc with rfl | hc
  · exact isContinuation_of_isStart hstart
  · exact List.all_eq_true.1 hrest c hc

/-- A character that may not continue an identifier is not in one. -/
theorem IsIdentifier.notMem {name : String} (h : IsIdentifier name) {c : Char}
    (hc : Identifier.isContinuation c = false) : c ∉ name.toList := by
  intro hmem
  rw [h.isContinuation hmem] at hc
  cases hc

theorem IsIdentifier.toList_ne_nil {name : String} (h : IsIdentifier name) : name.toList ≠ [] := by
  obtain ⟨c, rest, hname, -⟩ := isIdentifier_iff.1 h
  rw [hname]
  exact List.cons_ne_nil c rest

/-- A word that starts like an identifier, goes on like one and has an underscore is one. -/
theorem isIdentifier_of_underscore {name : String} {c : Char} {rest : List Char}
    (hname : name.toList = c :: rest) (hstart : isStart c = true)
    (hrest : ∀ d ∈ rest, Identifier.isContinuation d = true) (hunder : '_' ∈ name.toList) :
    IsIdentifier name :=
  isIdentifier_iff.2 ⟨c, rest, hname, hstart, List.all_eq_true.2 hrest,
    not_mem_reservedWords_of_underscore hunder⟩

/-- An identifier stays one when something with an underscore is glued to its end. -/
theorem IsIdentifier.append {base ending : String} (h : IsIdentifier base)
    (hending : ∀ c ∈ ending.toList, Identifier.isContinuation c = true)
    (hunder : '_' ∈ ending.toList) : IsIdentifier (base ++ ending) := by
  obtain ⟨c, rest, hname, hstart, hrest, -⟩ := isIdentifier_iff.1 h
  have hglued : (base ++ ending).toList = c :: (rest ++ ending.toList) := by
    rw [String.toList_append, hname, List.cons_append]
  refine isIdentifier_of_underscore hglued hstart (fun d hd => ?_) ?_
  · rcases List.mem_append.1 hd with hd | hd
    · exact List.all_eq_true.1 hrest d hd
    · exact hending d hd
  · rw [String.toList_append]
    exact List.mem_append_right _ hunder

/-- The digits of a number may all continue an identifier. -/
theorem isContinuation_of_mem_toString {n : Nat} {c : Char} (h : c ∈ (toString n).toList) :
    Identifier.isContinuation c = true := by
  rw [Nat.toString_eq_ofList_toDigits, String.toList_ofList] at h
  have hdigit : c.isDigit = true := Nat.isDigit_of_mem_toDigits (by decide) (by decide) h
  simp [Identifier.isContinuation, Char.isAlphanum, hdigit]

/-! ### The names the library makes -/

/-- The three signals of a net named by an identifier are identifiers. -/
theorem isIdentifier_of_mem_handshake {base s : String} (h : IsIdentifier base)
    (hs : s ∈ handshake base) : IsIdentifier s := by
  rcases mem_handshake.1 hs with rfl | rfl | rfl
  · exact h
  · exact h.append (List.all_eq_true.1 rfl) (by decide)
  · exact h.append (List.all_eq_true.1 rfl) (by decide)

/-- An identifier with a suffix is an identifier. -/
theorem isIdentifier_suffixed {base : String} (h : IsIdentifier base) (k : Nat) :
    IsIdentifier (suffixed base k) := by
  unfold suffixed
  rw [String.append_assoc]
  refine h.append (fun c hc => ?_) ?_
  · rw [String.toList_append] at hc
    rcases List.mem_append.1 hc with hc | hc
    · obtain rfl : c = '_' := by simpa using hc
      decide
    · exact isContinuation_of_mem_toString hc
  · rw [String.toList_append]
    exact List.mem_append_left _ (by decide)

/-- A fresh name is an identifier if its base is. -/
theorem isIdentifier_freshName {isFree : String → Bool} {base : String} (h : IsIdentifier base) :
    IsIdentifier (freshName isFree base) := by
  unfold freshName
  split
  · exact h
  · cases hfound : firstFree? isFree base suffixLimit 1 with
    | none => exact h
    | some s =>
      obtain ⟨i, -, rfl, -⟩ := firstFree?_eq_some hfound
      exact isIdentifier_suffixed h _

namespace Chip

/-- What the automatic name of the net with the given number starts from. -/
def wireBase (n : Nat) : String := s!"{wireStem}_{n}"

/-- What the name of the instance with the given number starts from. -/
def instanceBase (n : Nat) (component : String) : String := s!"{instanceStem}_{n}_{component}"

theorem toList_wireBase (n : Nat) :
    (wireBase n).toList = ['w', 'i', 'r', 'e', '_'] ++ (toString n).toList := by
  rw [show wireBase n = "wire_" ++ toString n from rfl, String.toList_append]
  rfl

theorem toList_instanceBase (n : Nat) (component : String) :
    (instanceBase n component).toList =
      ['i', 'n', 's', 't', '_'] ++ ((toString n).toList ++ '_' :: component.toList) := by
  rw [show instanceBase n component = "inst_" ++ toString n ++ "_" ++ component from rfl]
  simp only [String.toList_append, List.append_assoc]
  rfl

/-- The base of an automatic net's name is an identifier. -/
theorem isIdentifier_wireBase (n : Nat) : IsIdentifier (wireBase n) := by
  have hname := toList_wireBase n
  refine isIdentifier_of_underscore hname (by decide) (fun d hd => ?_) ?_
  · rcases List.mem_append.1 hd with hd | hd
    · have hstem : ['i', 'r', 'e', '_'].all Identifier.isContinuation = true := rfl
      exact List.all_eq_true.1 hstem d hd
    · exact isContinuation_of_mem_toString hd
  · rw [hname]
    exact List.mem_append_left _ (by decide)

/-- The base of an automatic instance's name is an identifier if the component's name is. -/
theorem isIdentifier_instanceBase (n : Nat) {component : String} (h : IsIdentifier component) :
    IsIdentifier (instanceBase n component) := by
  have hname := toList_instanceBase n component
  refine isIdentifier_of_underscore hname (by decide) (fun d hd => ?_) ?_
  · -- three parts: the stem, the number, and the component behind an underscore
    rcases List.mem_append.1 hd with hd | hd
    · have hstem : ['n', 's', 't', '_'].all Identifier.isContinuation = true := rfl
      exact List.all_eq_true.1 hstem d hd
    · rcases List.mem_append.1 hd with hd | hd
      · exact isContinuation_of_mem_toString hd
      · rcases List.mem_cons.1 hd with rfl | hd
        · decide
        · exact h.isContinuation hd
  · rw [hname]
    exact List.mem_append_left _ (by decide)

end Chip

/-! ### The three names of a net -/

/-- A word whose last character is a digit. -/
def EndsInDigit (s : String) : Prop :=
  ∃ c, s.toList.getLast? = some c ∧ c.isDigit = true

/-- What has a number glued to its end ends in a digit. -/
theorem endsInDigit_append_toString (s : String) (n : Nat) : EndsInDigit (s ++ toString n) := by
  have hne : Nat.toDigits 10 n ≠ [] := Nat.toDigits_ne_nil
  refine ⟨(Nat.toDigits 10 n).getLast hne, ?_, ?_⟩
  · rw [String.toList_append, Nat.toString_eq_ofList_toDigits, String.toList_ofList,
      List.getLast?_append, List.getLast?_eq_some_getLast hne]
    rfl
  · exact Nat.isDigit_of_mem_toDigits (by decide) (by decide) (List.getLast_mem hne)

/-- The three signals of a net have three names. -/
theorem nodup_handshake (base : String) : (handshake base).Nodup := by
  -- they have the base in common, so they differ as their endings do
  have hsuffix : ∀ {ending ending' : String}, base ++ ending = base ++ ending' →
      ending = ending' := by
    intro ending ending' h
    have hlist := congrArg String.toList h
    rw [String.toList_append, String.toList_append] at hlist
    exact String.toList_inj.1 (List.append_cancel_left hlist)
  have hself : ∀ {ending : String}, base = base ++ ending → ending = "" := by
    intro ending h
    exact hsuffix (h.symm.trans (String.append_empty).symm)
  unfold handshake
  rw [List.nodup_cons, List.nodup_cons]
  refine ⟨fun hmem => ?_, fun hmem => ?_, List.pairwise_singleton ..⟩
  · rcases List.mem_cons.1 hmem with h | h
    · exact absurd (hself h) (by decide)
    · exact absurd (hself (List.mem_singleton.1 h)) (by decide)
  · exact absurd (hsuffix (List.mem_singleton.1 hmem)) (by decide)

/-- What a signal's last character says about the ending its net's name was given. -/
def endingAt (c : Char) : String :=
  if c = 'b' then strobeEnding else if c = 'k' then acknowledgeEnding else ""

/-- If a net's name ends in a digit, the last character of each of its signals tells which of the
three it is. -/
theorem exists_eq_append_endingAt {base s : String} (hbase : EndsInDigit base)
    (hs : s ∈ handshake base) : ∃ c, s.toList.getLast? = some c ∧ s = base ++ endingAt c := by
  rcases mem_handshake.1 hs with rfl | rfl | rfl
  · obtain ⟨c, hlast, hdigit⟩ := hbase
    refine ⟨c, hlast, ?_⟩
    have hb : c ≠ 'b' := by rintro rfl; cases hdigit
    have hk : c ≠ 'k' := by rintro rfl; cases hdigit
    rw [endingAt, if_neg hb, if_neg hk, String.append_empty]
  · exact ⟨'b', by rw [String.toList_append, List.getLast?_append]; rfl, rfl⟩
  · exact ⟨'k', by rw [String.toList_append, List.getLast?_append]; rfl, rfl⟩

/-- Nets whose names end in digits have no signal in common unless they have the same name. -/
theorem eq_of_mem_handshake {a b s : String} (ha : EndsInDigit a) (hb : EndsInDigit b)
    (hsa : s ∈ handshake a) (hsb : s ∈ handshake b) : a = b := by
  obtain ⟨c, hc, hca⟩ := exists_eq_append_endingAt ha hsa
  obtain ⟨d, hd, hdb⟩ := exists_eq_append_endingAt hb hsb
  obtain rfl : c = d := Option.some.inj (hc.symm.trans hd)
  have hlist := congrArg String.toList (hca.symm.trans hdb)
  rw [String.toList_append, String.toList_append] at hlist
  exact String.toList_inj.1 (List.append_cancel_right hlist)

end Netlist
