/-!
# Identifiers

Chips, nets, instances and components all end up as plain identifiers of an emitted module. This
file decides which strings can be one: `Identifier.flaw?` names the first thing that is wrong with
a string, and `IsIdentifier` holds of the strings with no flaw.
-/

namespace Netlist

/-- The words that cannot name anything in a module, because the language reserves them. -/
def reservedWords : List String :=
  ["always", "and", "assign", "automatic", "begin", "buf", "case", "casex", "casez", "cell",
   "config", "deassign", "default", "defparam", "design", "disable", "edge", "else", "end",
   "endcase", "endconfig", "endfunction", "endgenerate", "endmodule", "endprimitive",
   "endspecify", "endtable", "endtask", "event", "for", "force", "forever", "fork", "function",
   "generate", "genvar", "if", "ifnone", "incdir", "include", "initial", "inout", "input",
   "instance", "integer", "join", "liblist", "library", "localparam", "macromodule", "module",
   "nand", "negedge", "nor", "not", "or", "output", "parameter", "posedge", "reg", "release",
   "repeat", "signed", "specify", "specparam", "supply0", "supply1", "table", "task", "time",
   "tri", "tri0", "tri1", "triand", "trior", "unsigned", "use", "wait", "wand", "while", "wire",
   "wor", "xnor", "xor"]

/-- What can keep a string from being an identifier. -/
inductive IdentifierFlaw where
  | empty
  | badStart
  | badCharacter
  | reserved
deriving DecidableEq, Repr

/-- The flaw in words, as error messages give it. -/
def IdentifierFlaw.reason : IdentifierFlaw → String
  | empty => "name is empty"
  | badStart => "must start with a letter or underscore"
  | badCharacter => "may only contain letters, digits, and underscores"
  | reserved => "is a Verilog keyword"

namespace Identifier

/-- An identifier starts with an ASCII letter or an underscore. -/
def isStart (c : Char) : Bool :=
  c.isAlpha || c == '_'

/-- After its start an identifier goes on with ASCII letters, digits and underscores. -/
def isContinuation (c : Char) : Bool :=
  c.isAlphanum || c == '_'

/-- **The first flaw of a string**, in the order start, rest, reserved word. -/
def flaw? (name : String) : Option IdentifierFlaw :=
  match name.toList with
  | [] => some .empty
  | c :: rest =>
    if !isStart c then some .badStart
    else if !rest.all isContinuation then some .badCharacter
    else if reservedWords.contains name then some .reserved
    else none

/-- What can start an identifier can also stand inside of it. -/
theorem isContinuation_of_isStart {c : Char} (h : isStart c = true) : isContinuation c = true := by
  simp only [isStart, isContinuation, Bool.or_eq_true, Char.isAlphanum] at *
  exact h.imp_left Or.inl

end Identifier

/-- A string with no flaw: it can be emitted as it stands. -/
def IsIdentifier (name : String) : Prop :=
  Identifier.flaw? name = none

instance (name : String) : Decidable (IsIdentifier name) :=
  inferInstanceAs (Decidable (_ = none))

/-- An identifier is a start character, continuation characters, and no reserved word. -/
theorem isIdentifier_iff {name : String} :
    IsIdentifier name ↔ ∃ c rest, name.toList = c :: rest ∧ Identifier.isStart c = true ∧
      rest.all Identifier.isContinuation = true ∧ name ∉ reservedWords := by
  unfold IsIdentifier Identifier.flaw?
  split
  · next h => simp [h]
  · next c rest h =>
    -- each of the three checks would have reported its flaw
    refine ⟨fun hf => ⟨c, rest, h, ?_⟩, fun ⟨c', rest', h', h₁, h₂, h₃⟩ => ?_⟩
    · by_cases h₁ : Identifier.isStart c = true
      · by_cases h₂ : rest.all Identifier.isContinuation = true
        · refine ⟨h₁, h₂, fun h₃ => ?_⟩
          rw [← List.contains_iff_mem] at h₃
          simp only [h₁, h₂, h₃] at hf
          exact absurd hf (by simp)
        · rw [Bool.not_eq_true] at h₂
          simp only [h₁, h₂] at hf
          exact absurd hf (by simp)
      · rw [Bool.not_eq_true] at h₁
        simp only [h₁] at hf
        exact absurd hf (by simp)
    · obtain ⟨rfl, rfl⟩ := List.cons.inj (h.symm.trans h')
      simp [h₁, h₂, h₃]

end Netlist
