import Netlist.Chip.Violation
import Netlist.FileTree
import Netlist.Verilog.Module

/-!
# Elaboration

A chip is elaborated when it is complete: every net has both of its ends. Then the text of its
module is the answer; otherwise the incomplete nets are.
-/

namespace Netlist.Verilog

/-- Why a module was not made or not written. -/
inductive ElaborateError where
  | incomplete (chip : String) (violations : List Violation)
  | unwritable
  | file (path : Path) (error : FileError)
deriving DecidableEq, Repr

/-- The error in words. -/
def ElaborateError.message : ElaborateError → String
  | incomplete chip violations => s!"chip `{chip}` has {violations.length} incomplete net(s)"
  | unwritable => "failed to render module text"
  | file path error => s!"failed to write {path.text}: {error.message}"

/-- The text of the module that a chip becomes, complete or not. -/
def moduleText (c : Chip) : String :=
  (Module.ofChip c).text

/-- **The text of the module of a complete chip.** -/
def elaborate (c : Chip) : Except ElaborateError String :=
  match c.violations with
  | [] => .ok (moduleText c)
  | violations => .error (.incomplete c.name violations)

/-- What an elaboration reports. -/
def elaborateEvents (c : Chip) : List Event :=
  -- only a module that has been made is told of
  let finished := match elaborate c with
    | .ok text => [Event.elaborated c.netCount c.instanceCount text.utf8ByteSize]
    | .error _ => []
  (c.violationEvents ++ finished).map (.elaborating c.name)

/-- A chip without violations elaborates to the text of its module, and no other does. -/
theorem elaborate_eq_ok_iff {c : Chip} {text : String} :
    elaborate c = .ok text ↔ c.violations = [] ∧ text = moduleText c := by
  unfold elaborate
  split
  · next h => exact ⟨fun e => ⟨h, (Except.ok.inj e).symm⟩, fun e => congrArg _ e.2.symm⟩
  · next h => exact ⟨(nomatch ·), fun e => absurd e.1 h⟩

/-- A chip with violations is answered with all of them. -/
theorem elaborate_of_violations {c : Chip} (h : c.violations ≠ []) :
    elaborate c = .error (.incomplete c.name c.violations) := by
  unfold elaborate
  split
  · next hnil => exact absurd hnil h
  · rfl

/-- It depends on the nets alone whether a chip elaborates. -/
theorem exists_elaborate_eq_ok_iff {c : Chip} :
    (∃ text, elaborate c = .ok text) ↔ ∀ n ∈ c.nets.toList, n.isComplete = true := by
  have hviolations : c.violations = [] ↔ ∀ n ∈ c.nets.toList, n.isComplete = true := by
    rw [Chip.violations_eq_nil_iff, Chip.isComplete, List.all_eq_true]
  rw [← hviolations]
  constructor
  · rintro ⟨text, htext⟩
    exact (elaborate_eq_ok_iff.1 htext).1
  · intro hnone
    exact ⟨moduleText c, elaborate_eq_ok_iff.2 ⟨hnone, rfl⟩⟩

/-- There is no other error than the incomplete nets. -/
theorem elaborate_eq_error {c : Chip} {e : ElaborateError} (h : elaborate c = .error e) :
    e = .incomplete c.name c.violations ∧ c.violations ≠ [] := by
  unfold elaborate at h
  split at h
  · cases h
  · next hsome =>
    cases h
    exact ⟨rfl, hsome⟩

end Netlist.Verilog
