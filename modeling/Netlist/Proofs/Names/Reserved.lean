import Mathlib.Logic.Basic
import Netlist.Proofs.Names.Identifier

/-!
# Which words are accepted as names

Every name in a module has passed `checkIdentifier`, so this file says what passes, in terms that do
not mention the check. The shape is that of a plain word (`IsPlainWord`): an ASCII letter or an
underscore, and then ASCII letters, digits and underscores. Characters are told by their ranges, so
no letter or digit of another script is among them.

The other half is the table of reserved words. It is meant to be the one of Verilog-2005, which is
`verilogWords`, but it is shorter: `overlookedWords` are missing from it, and nothing else is
(`mem_reservedWords_iff`). Most of them are switches and strengths, and it is easy to do without
them; but `small`, `real` or `strong0` is then accepted as a name, and no module may use it
(`checkIdentifier_accepts_reserved`).
-/

namespace Netlist

open Identifier

/-! ### The shape of a word -/

/-- **A plain word**: a letter or an underscore, followed by letters, digits and underscores. -/
def Identifier.IsPlainWord (word : String) : Prop :=
  ∃ c rest, word.toList = c :: rest ∧ (IsLetter c ∨ c = '_') ∧
    ∀ d ∈ rest, IsLetter d ∨ IsDecimal d ∨ d = '_'

/-- An identifier is a plain word that is not in the table. -/
theorem isIdentifier_iff_isPlainWord {word : String} :
    IsIdentifier word ↔ IsPlainWord word ∧ word ∉ reservedWords := by
  rw [isIdentifier_iff]
  constructor
  · rintro ⟨c, rest, hword, hstart, hrest, hfree⟩
    refine ⟨⟨c, rest, hword, isStart_iff.1 hstart, ?_⟩, hfree⟩
    intro d hd
    exact isContinuation_iff.1 (List.all_eq_true.1 hrest d hd)
  · rintro ⟨⟨c, rest, hword, hstart, hrest⟩, hfree⟩
    refine ⟨c, rest, hword, isStart_iff.2 hstart, List.all_eq_true.2 ?_, hfree⟩
    intro d hd
    exact isContinuation_iff.2 (hrest d hd)

/-! ### The reserved words -/

/-- **The reserved words of Verilog-2005**, all of them. -/
def verilogWords : List String :=
  ["always", "and", "assign", "automatic", "begin", "buf", "bufif0", "bufif1", "case", "casex",
   "casez", "cell", "cmos", "config", "deassign", "default", "defparam", "design", "disable",
   "edge", "else", "end", "endcase", "endconfig", "endfunction", "endgenerate", "endmodule",
   "endprimitive", "endspecify", "endtable", "endtask", "event", "for", "force", "forever", "fork",
   "function", "generate", "genvar", "highz0", "highz1", "if", "ifnone", "incdir", "include",
   "initial", "inout", "input", "instance", "integer", "join", "large", "liblist", "library",
   "localparam", "macromodule", "medium", "module", "nand", "negedge", "nmos", "nor",
   "noshowcancelled", "not", "notif0", "notif1", "or", "output", "parameter", "pmos", "posedge",
   "primitive", "pull0", "pull1", "pulldown", "pullup", "pulsestyle_ondetect",
   "pulsestyle_onevent", "rcmos", "real", "realtime", "reg", "release", "repeat", "rnmos", "rpmos",
   "rtran", "rtranif0", "rtranif1", "scalared", "showcancelled", "signed", "small", "specify",
   "specparam", "strong0", "strong1", "supply0", "supply1", "table", "task", "time", "tran",
   "tranif0", "tranif1", "tri", "tri0", "tri1", "triand", "trior", "trireg", "unsigned", "use",
   "uwire", "vectored", "wait", "wand", "weak0", "weak1", "while", "wire", "wor", "xnor", "xor"]

/-- The reserved words that the table does not have. -/
def overlookedWords : List String :=
  ["bufif0", "bufif1", "cmos", "highz0", "highz1", "large", "medium", "nmos", "noshowcancelled",
   "notif0", "notif1", "pmos", "primitive", "pull0", "pull1", "pulldown", "pullup",
   "pulsestyle_ondetect", "pulsestyle_onevent", "rcmos", "real", "realtime", "rnmos", "rpmos",
   "rtran", "rtranif0", "rtranif1", "scalared", "showcancelled", "small", "strong0", "strong1",
   "tran", "tranif0", "tranif1", "trireg", "uwire", "vectored", "weak0", "weak1"]

/-- The table is the list of reserved words with gaps, and in the same order. -/
theorem reservedWords_eq_filter :
    reservedWords = verilogWords.filter (· ∉ overlookedWords) := by
  -- two closed lists of words
  decide +kernel

/-- The table has the reserved words that were not overlooked, and no other word. -/
theorem mem_reservedWords_iff {word : String} :
    word ∈ reservedWords ↔ word ∈ verilogWords ∧ word ∉ overlookedWords := by
  rw [reservedWords_eq_filter, List.mem_filter, decide_eq_true_eq]

/-! ### What passes -/

/-- **Which words are accepted as names**: the plain words that are not reserved, and besides them
the forty reserved words that the table has not got. -/
theorem checkIdentifier_accepts_iff (word : String) : checkIdentifier word = .ok () ↔
    IsPlainWord word ∧ (word ∉ verilogWords ∨ word ∈ overlookedWords) := by
  rw [checkIdentifier_eq_ok_iff, isIdentifier_iff_isPlainWord, mem_reservedWords_iff, not_and_or,
    not_not]

/-- A word is not kept from being a name by being reserved: `small` is accepted. -/
theorem checkIdentifier_accepts_reserved :
    ¬ ∀ word, checkIdentifier word = .ok () ↔ IsPlainWord word ∧ word ∉ verilogWords := by
  intro hlaw
  have haccepted : checkIdentifier "small" = .ok () := checkIdentifier_eq_ok_iff.2 (by decide)
  have hreserved : "small" ∈ verilogWords := by decide +kernel
  exact ((hlaw "small").1 haccepted).2 hreserved

end Netlist
