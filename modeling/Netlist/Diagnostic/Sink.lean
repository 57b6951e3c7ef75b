import Netlist.Diagnostic

/-!
# Diagnostic sinks

A sink collects the diagnostics of one run. Diagnostics are taken out of it in the order in which
they were emitted; the count of errors goes on over the whole run.
-/

namespace Netlist

/-- The diagnostics of a run that have not been taken yet. -/
structure DiagnosticSink where
  /-- The diagnostics held, oldest first. -/
  held : List Diagnostic
  /-- How many errors have been emitted in the whole run. -/
  errorCount : Nat
deriving DecidableEq, Repr

namespace DiagnosticSink

/-- The sink at the start of a run. -/
def empty : DiagnosticSink := ⟨[], 0⟩

/-- Adds a diagnostic. -/
def emit (s : DiagnosticSink) (d : Diagnostic) : DiagnosticSink where
  held := s.held ++ [d]
  errorCount := if d.severity.isError then s.errorCount + 1 else s.errorCount

/-- Adds diagnostics in order. -/
def extend (s : DiagnosticSink) (ds : List Diagnostic) : DiagnosticSink :=
  ds.foldl emit s

/-- Takes out everything that is held. The count of errors stays. -/
def takeAll (s : DiagnosticSink) : List Diagnostic × DiagnosticSink :=
  (s.held, { s with held := [] })

/-- Has an error been emitted in this run? -/
def hasErrors (s : DiagnosticSink) : Bool :=
  0 < s.errorCount

/-- How many warnings are held. -/
def warningCount (s : DiagnosticSink) : Nat :=
  -- counted anew, so those that have been taken are not in it
  s.held.countP fun d => d.severity == .warning

@[simp] theorem held_emit (s : DiagnosticSink) (d : Diagnostic) :
    (s.emit d).held = s.held ++ [d] := rfl

/-- Diagnostics are held in the order in which they are emitted. -/
@[simp] theorem held_extend (s : DiagnosticSink) (ds : List Diagnostic) :
    (s.extend ds).held = s.held ++ ds := by
  induction ds generalizing s with
  | nil => simp [extend]
  | cons d ds ih =>
    have := ih (s.emit d)
    simp only [extend, List.foldl_cons] at this ⊢
    simp [this]

/-- The errors counted are those counted before and those added. -/
theorem errorCount_extend (s : DiagnosticSink) (ds : List Diagnostic) :
    (s.extend ds).errorCount = s.errorCount + ds.countP fun d => d.severity.isError := by
  induction ds generalizing s with
  | nil => simp [extend]
  | cons d ds ih =>
    have := ih (s.emit d)
    simp only [extend, List.foldl_cons] at this ⊢
    rw [this, emit, List.countP_cons]
    -- the new diagnostic counts on both sides or on neither
    by_cases h : d.severity.isError = true
    · simp only [h, if_true]
      omega
    · simp [h]

end DiagnosticSink

end Netlist
