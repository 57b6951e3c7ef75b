import Mathlib.Data.List.Basic
import Netlist.Diagnostic.Sink

/-!
# The law of a sink

A sink is told diagnostics one at a time or several at once (`SinkCall.emit`, `SinkCall.extend`),
and in between it is emptied (`SinkCall.takeAll`). A `SinkRun` is what there is after some calls:
the sink, and every list that has been taken out of it. Taking does not lose or reorder anything, so
the lists taken, and after them what is held, are the diagnostics emitted (`SinkRun.Accounts`). One
call preserves this (`Accounts.perform`), and therefore any number of calls does
(`Accounts.performAll`).

The two counts are not alike. Errors are counted as they come, and the number stands for the whole
run. Warnings are counted in what is held: every take forgets the warnings it takes, so that the
number is the one of the whole run just when no warning has been taken (`sink_law`). The one place
where the number is printed is the report of a check, whose sink is told errors only.
-/

namespace Netlist

/-- One use of a sink. -/
inductive SinkCall where
  | emit (d : Diagnostic)
  | extend (ds : List Diagnostic)
  | takeAll
deriving DecidableEq, Repr

/-- The diagnostics that a call adds. -/
def SinkCall.emitted : SinkCall → List Diagnostic
  | emit d => [d]
  | extend ds => ds
  | takeAll => []

/-- Everything that is emitted by some calls, the oldest first. -/
def emittedBy (calls : List SinkCall) : List Diagnostic :=
  calls.flatMap SinkCall.emitted

/-- How many of the diagnostics are errors. -/
def errorsAmong (ds : List Diagnostic) : Nat :=
  ds.countP fun d => d.severity == .error

/-- How many of the diagnostics are warnings. -/
def warningsAmong (ds : List Diagnostic) : Nat :=
  ds.countP fun d => d.severity == .warning

theorem errorsAmong_append (ds ds' : List Diagnostic) :
    errorsAmong (ds ++ ds') = errorsAmong ds + errorsAmong ds' :=
  List.countP_append

theorem warningsAmong_append (ds ds' : List Diagnostic) :
    warningsAmong (ds ++ ds') = warningsAmong ds + warningsAmong ds' :=
  List.countP_append

/-- No warning is counted exactly when there is none. -/
theorem warningsAmong_eq_zero_iff {ds : List Diagnostic} :
    warningsAmong ds = 0 ↔ ∀ d ∈ ds, d.severity ≠ .warning := by
  simp [warningsAmong, List.countP_eq_zero]

/-- A sink in use. -/
structure SinkRun where
  sink : DiagnosticSink
  /-- What the calls of `takeAll` have returned, the oldest first. -/
  taken : List (List Diagnostic)

namespace SinkRun

/-- A new sink. -/
def fresh : SinkRun := ⟨.empty, []⟩

/-- Makes one call. -/
def perform (r : SinkRun) : SinkCall → SinkRun
  | .emit d => { r with sink := r.sink.emit d }
  | .extend ds => { r with sink := r.sink.extend ds }
  | .takeAll => { sink := r.sink.takeAll.2, taken := r.taken ++ [r.sink.takeAll.1] }

/-- Makes calls one after another. -/
def performAll (r : SinkRun) (calls : List SinkCall) : SinkRun :=
  calls.foldl perform r

/-- The diagnostics that have been in the sink, as it gives them out: the lists taken, and then what
it holds. -/
def given (r : SinkRun) : List Diagnostic :=
  r.taken.flatten ++ r.sink.held

/-- **The sink accounts for the diagnostics** `said`: it has given out or holds these, in this
order, and it has counted the errors among them. -/
structure Accounts (r : SinkRun) (said : List Diagnostic) : Prop where
  given_eq : r.given = said
  errors : r.sink.errorCount = errorsAmong said

namespace Accounts

variable {r : SinkRun} {said : List Diagnostic}

theorem fresh : Accounts .fresh [] :=
  ⟨rfl, rfl⟩

/-- Several diagnostics told at once are accounted for at the end. -/
theorem extend (h : Accounts r said) (ds : List Diagnostic) :
    Accounts (r.perform (.extend ds)) (said ++ ds) where
  given_eq := by
    show r.taken.flatten ++ (r.sink.extend ds).held = said ++ ds
    rw [DiagnosticSink.held_extend, ← List.append_assoc, ← h.given_eq, SinkRun.given]
  errors := by
    show (r.sink.extend ds).errorCount = errorsAmong (said ++ ds)
    rw [DiagnosticSink.errorCount_extend, h.errors, errorsAmong_append]
    rfl

/-- Taking changes nothing about what is accounted for. -/
theorem takeAll (h : Accounts r said) : Accounts (r.perform .takeAll) said where
  given_eq := by
    -- what was held is the last of the lists taken now
    show (r.taken ++ [r.sink.held]).flatten ++ [] = said
    rw [List.append_nil, List.flatten_concat, ← h.given_eq, SinkRun.given]
  errors := h.errors

/-- What one call preserves. -/
theorem perform (h : Accounts r said) (call : SinkCall) :
    Accounts (r.perform call) (said ++ call.emitted) := by
  cases call with
  -- a single diagnostic is told like a list of one
  | emit d => exact h.extend [d]
  | extend ds => exact h.extend ds
  | takeAll =>
    show Accounts (r.perform .takeAll) (said ++ [])
    rw [List.append_nil]
    exact h.takeAll

/-- What any number of calls preserves. -/
theorem performAll (h : Accounts r said) (calls : List SinkCall) :
    Accounts (r.performAll calls) (said ++ emittedBy calls) := by
  -- on the calls, with the diagnostics said so far carried along
  induction calls generalizing r said with
  | nil =>
    show Accounts r (said ++ [])
    rwa [List.append_nil]
  | cons call calls ih =>
    have hrest := ih (h.perform call)
    rwa [List.append_assoc] at hrest

/-- Every warning has been taken or is counted. -/
theorem warnings (h : Accounts r said) :
    warningsAmong r.taken.flatten + r.sink.warningCount = warningsAmong said := by
  rw [← h.given_eq, SinkRun.given, warningsAmong_append]
  rfl

/-- The count of warnings is the one of the whole run just when none of them has been taken. -/
theorem warningCount_eq_iff (h : Accounts r said) :
    r.sink.warningCount = warningsAmong said ↔ ∀ d ∈ r.taken.flatten, d.severity ≠ .warning := by
  rw [← warningsAmong_eq_zero_iff, ← h.warnings]
  omega

end Accounts

end SinkRun

/-- A sink has errors just when it has counted some. -/
theorem DiagnosticSink.hasErrors_iff {s : DiagnosticSink} :
    s.hasErrors = true ↔ 0 < s.errorCount :=
  decide_eq_true_iff

/-! ### The law -/

/-- **The law of a sink.** Whatever calls are made on a new sink, the lists taken out of it and then
what it holds are the diagnostics emitted, in the order of emission. The errors counted are all the
errors emitted, and there are errors just when this number is positive. The warnings counted are the
warnings emitted less those that were taken, so they are all of them only if none was taken. -/
theorem sink_law (calls : List SinkCall) :
    let r := SinkRun.fresh.performAll calls
    r.taken.flatten ++ r.sink.held = emittedBy calls ∧
      r.sink.errorCount = errorsAmong (emittedBy calls) ∧
      (r.sink.hasErrors = true ↔ 0 < r.sink.errorCount) ∧
      warningsAmong r.taken.flatten + r.sink.warningCount = warningsAmong (emittedBy calls) ∧
      (r.sink.warningCount = warningsAmong (emittedBy calls) ↔
        ∀ d ∈ r.taken.flatten, d.severity ≠ .warning) := by
  intro r
  have haccounts : r.Accounts (emittedBy calls) := SinkRun.Accounts.fresh.performAll calls
  exact ⟨haccounts.given_eq, haccounts.errors, DiagnosticSink.hasErrors_iff, haccounts.warnings,
    haccounts.warningCount_eq_iff⟩

/-- The count of warnings is not that of the run: a warning is emitted and taken, and the count is
zero. -/
theorem warningCount_forgets_taken :
    ¬ ∀ calls, (SinkRun.fresh.performAll calls).sink.warningCount =
      warningsAmong (emittedBy calls) := by
  intro hlaw
  have hcount := hlaw [.emit (.plain .warning ⟨.warning, 300⟩ "unused"), .takeAll]
  exact absurd hcount (by decide)

end Netlist
