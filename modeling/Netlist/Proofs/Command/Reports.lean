import Netlist.Command.Check
import Netlist.Proofs.Command.Findings

/-!
# What builds and checks print

With the findings of a project at hand, a build stops at the first thing that is wrong, and learns
of incomplete nets from an elaboration that has failed; a check asks the chip itself, however little
of it there is. `BuildReports` and `CheckReports` say what comes of it, word by word: which
diagnostics are printed, with which counts, and what the command comes to. `build_reports` and
`check_reports` prove it, on any machine whose manifest can be loaded.

A build has three ways to end (`BuildEnds`). It is worth noting which of them say that something is
wrong with the project: only the one with a failure report. A module that cannot be written is no
diagnostic, and then there is none.
-/

namespace Netlist.Command

/-! ### What is printed -/

/-- A line of messages, unless only errors are printed. -/
def messageLine (s : Settings) (line : String) : String :=
  if s.quiet then "" else line ++ "\n"

/-- Diagnostics as they are printed. -/
def renderedText (colour : Bool) (ds : List Diagnostic) : String :=
  String.join (ds.map fun d => d.render colour ++ "\n")

theorem run_say (s : Settings) (line : String) (before : Machine) :
    (say s line).run before = ((), before.print .err (messageLine s line)) := by
  unfold say messageLine
  cases s.quiet with
  | true => exact congrArg (Prod.mk ()) (Machine.print_empty before .err).symm
  | false => rfl

theorem run_printDiagnostics (s : Settings) (ds : List Diagnostic) (before : Machine) :
    (printDiagnostics s ds).run before = ((), before.print .err (renderedText s.colour ds)) := by
  -- on the diagnostics, from any machine: the first line is on it when the rest is printed
  induction ds generalizing before with
  | nil => exact congrArg (Prod.mk ()) (Machine.print_empty before .err).symm
  | cons d ds ih =>
    have hfirst : (Action.printErrLine (d.render s.colour)).run before =
        ((), before.print .err (d.render s.colour ++ "\n")) := rfl
    have hcons : renderedText s.colour (d :: ds) =
        d.render s.colour ++ "\n" ++ renderedText s.colour ds := by
      rw [renderedText, List.map_cons, String.join_cons, renderedText]
    have hrun : printDiagnostics s (d :: ds) =
        (Action.printErrLine (d.render s.colour) >>= fun _ => printDiagnostics s ds) := rfl
    rw [hrun, Action.run_bind, hfirst, ih, Machine.print_print, hcons]

/-- The last line of a build that has failed. -/
def failureLine (m : Manifest) (count : Nat) : String :=
  s!"error: could not build `{m.project.name}` due to {count} previous error(s)" ++ "\n"

/-- A failure report prints what the sink holds, and the count of it. -/
theorem run_reportFailure (s : Settings) (m : Manifest) (sink : DiagnosticSink)
    (before : Machine) : (reportFailure s m sink).run before =
      (.ok 1, before.print .err
        (renderedText s.colour sink.held ++ failureLine m sink.errorCount)) := by
  rw [reportFailure, Action.run_bind, run_printDiagnostics, ← Machine.print_print]
  rfl

/-! ### Building -/

section Delivering

open Verilog (ElaborateError OutputOptions elaborate writeModule moduleText)

variable {c : Chip}

/-- Nothing is said while a module is written. -/
theorem isMute_writeModule (c : Chip) (o : OutputOptions) : (writeModule c o).IsMute := by
  refine (Action.isMute_log _).bind fun _ => ?_
  -- request by request, and none of them is to print a message
  cases elaborate c with
  | error e => exact Action.isMute_pure _
  | ok text =>
    refine (Action.isMute_createDirs o.dir).bind fun dirs => ?_
    cases dirs with
    | error e => exact Action.isMute_pure _
    | ok _ =>
      refine (Action.isMute_replaceFile (o.pathFor c.name) text).bind fun file => ?_
      cases file with
      | error e => exact Action.isMute_pure _
      | ok _ => exact (Action.isMute_log _).bind fun _ => Action.isMute_pure _

theorem isMute_printModule (c : Chip) : (printModule c).IsMute := by
  refine (Action.isMute_log _).bind fun _ => ?_
  cases elaborate c with
  | error e => exact Action.isMute_pure _
  | ok text => exact (Action.isMute_printOut text).bind fun _ => Action.isMute_pure _

/-- An incomplete chip is given back, and nothing is said. -/
theorem run_deliver_of_violations (h : c.violations ≠ []) (s : Settings) (o : OutputOptions)
    (stdout : Bool) (before : Machine) :
    ((deliver s o stdout c).run before).1 = .error (.incomplete c.name c.violations) ∧
      ((deliver s o stdout c).run before).2.err = before.err := by
  have helaborate := Verilog.elaborate_of_violations h
  cases stdout with
  | true =>
    rw [deliver, if_pos rfl]
    refine ⟨?_, isMute_printModule c before⟩
    rw [printModule, Action.run_bind, helaborate, Action.run_pure]
  | false =>
    have hwritten :
        ((writeModule c o).run before).1 = .error (.incomplete c.name c.violations) := by
      rw [writeModule, Action.run_bind, helaborate, Action.run_pure]
    rw [deliver, if_neg Bool.false_ne_true, Action.run_bind, hwritten]
    exact ⟨rfl, isMute_writeModule c o before⟩

/-- The module of a complete chip is written, or a file stands in the way. -/
theorem run_writeModule_of_complete (h : c.violations = []) (o : OutputOptions)
    (before : Machine) :
    ((writeModule c o).run before).1 = .ok (o.pathFor c.name) ∨
      ∃ path e, ((writeModule c o).run before).1 = .error (.file path e) := by
  have helaborate : elaborate c = .ok (moduleText c) := Verilog.elaborate_eq_ok_iff.2 ⟨h, rfl⟩
  rw [writeModule, Action.run_bind, helaborate]
  dsimp only
  rw [Action.run_bind]
  -- the two requests that can fail, in their order
  cases ((Action.createDirs o.dir).run _).1 with
  | error e => exact Or.inr ⟨o.dir, e, rfl⟩
  | ok _ =>
    dsimp only
    rw [Action.run_bind]
    cases ((Action.replaceFile (o.pathFor c.name) (moduleText c)).run _).1 with
    | error e => exact Or.inr ⟨o.pathFor c.name, e, rfl⟩
    | ok _ => exact Or.inl rfl

/-- A complete chip is delivered, and the file, if there is one, is named; or the file cannot be
written. -/
theorem run_deliver_of_complete (h : c.violations = []) (s : Settings) (o : OutputOptions)
    (stdout : Bool) (before : Machine) :
    (((deliver s o stdout c).run before).1 = .ok () ∧
      ((deliver s o stdout c).run before).2.err = before.err ++
        if stdout then "" else messageLine s s!"   Generated {(o.pathFor c.name).text}") ∨
    (stdout = false ∧ ((deliver s o stdout c).run before).2.err = before.err ∧
      ∃ path e, ((deliver s o stdout c).run before).1 = .error (.file path e)) := by
  have helaborate : elaborate c = .ok (moduleText c) := Verilog.elaborate_eq_ok_iff.2 ⟨h, rfl⟩
  cases stdout with
  | true =>
    have herr := isMute_printModule c before
    rw [deliver, if_pos rfl, if_pos rfl, String.append_empty]
    refine Or.inl ⟨?_, herr⟩
    rw [printModule, Action.run_bind, helaborate]
    rfl
  | false =>
    have herr := isMute_writeModule c o before
    rw [deliver, if_neg Bool.false_ne_true, if_neg Bool.false_ne_true, Action.run_bind]
    -- only the file can be in the way
    rcases run_writeModule_of_complete h o before with hok | ⟨path, e, hfailed⟩
    · rw [hok]
      dsimp only
      rw [Action.run_bind, run_say, ← herr]
      exact Or.inl ⟨rfl, rfl⟩
    · rw [hfailed]
      exact Or.inr ⟨rfl, herr, path, e, rfl⟩

end Delivering

/-- **How a build ends**: what it comes to, and the last that it says. -/
inductive BuildEnds (s : Settings) (m : Manifest) (o : Verilog.OutputOptions) (stdout : Bool)
    (f : Findings) : Outcome → String → Prop where
  /-- The module has been printed, or written to a file that is named. -/
  | done {c : Chip} (chip : f.chip = some c) (clean : f.ofBuild = []) :
      BuildEnds s m o stdout f (.ok 0)
        (if stdout then "" else messageLine s s!"   Generated {(o.pathFor c.name).text}")
  /-- Nothing is wrong with the project, but its module cannot be written. -/
  | unwritten (e : Verilog.ElaborateError) (clean : f.ofBuild = []) (toFile : stdout = false) :
      BuildEnds s m o stdout f (.error (.output e)) ""
  /-- Something is wrong with the project. The count is the number of diagnostics. -/
  | failed (some_reported : f.ofBuild ≠ []) :
      BuildEnds s m o stdout f (.ok 1) (failureLine m f.ofBuild.length)

/-- What a build has said after its title: the diagnostics, and how it ends. -/
def BuildFinishes (s : Settings) (m : Manifest) (o : Verilog.OutputOptions) (stdout : Bool)
    (f : Findings) (before : Machine) (result : Outcome × Machine) : Prop :=
  ∃ last, BuildEnds s m o stdout f result.1 last ∧
    result.2.err = before.err ++ (renderedText s.colour f.ofBuild ++ last)

/-- **What a build prints**: its title, the diagnostics, and how it ends. -/
def BuildReports (s : Settings) (root : Path) (m : Manifest) (outputDir : Option String)
    (stdout : Bool) (f : Findings) (before : Machine) (result : Outcome × Machine) : Prop :=
  ∃ last, BuildEnds s m (outputOptions root m outputDir) stdout f result.1 last ∧
    result.2.err = before.err ++ (messageLine s s!"   Building {projectTitle m}" ++
      renderedText s.colour f.ofBuild ++ last)

/-- A build whose manifest cannot be loaded ends there. -/
theorem build_of_error {s : Settings} {before : Machine} {e : CommandError}
    (h : ((loadProject s.config).run before).1 = .error e) (outputDir : Option String)
    (stdout : Bool) : (build s outputDir stdout).run before =
      (.error e, ((loadProject s.config).run before).2) := by
  rw [build, Action.run_bind, h]
  rfl

/-- What is left to do for a build when the chip is there, or is not. -/
def finishBuild (s : Settings) (m : Manifest) (o : Verilog.OutputOptions) (stdout : Bool)
    (a : Assembled) : Action Outcome := do
  match a.chip, a.sink.hasErrors with
  | some c, false =>
    match ← deliver s o stdout c with
    | .ok () => return .ok 0
    | .error (.incomplete _ violations) => reportFailure s m (withViolations a.sink violations)
    | .error e => return .error (.output e)
  | _, _ => reportFailure s m a.sink

/-- A build says its title, finds what there is, and goes on to its last part. -/
theorem run_build {s : Settings} {before : Machine} {root : Path} {m : Manifest}
    (h : ((loadProject s.config).run before).1 = .ok (root, m)) (outputDir : Option String)
    (stdout : Bool) : ∃ after : Machine,
      after.err = before.err ++ messageLine s s!"   Building {projectTitle m}" ∧
      (build s outputDir stdout).run before =
        (finishBuild s m (outputOptions root m outputDir) stdout
          ⟨(findings root m before).chip, (findings root m before).sink⟩).run after := by
  obtain ⟨after, herr, -, hrun⟩ := run_assemble_after s root m before
    (run_say s s!"   Building {projectTitle m}")
    (finishBuild s m (outputOptions root m outputDir) stdout)
  refine ⟨after, herr, ?_⟩
  rw [build, Action.run_bind, h]
  exact hrun

section Finishing

variable (s : Settings) (m : Manifest) (o : Verilog.OutputOptions) (stdout : Bool)

/-- A failure report on nothing but errors counts what it prints. -/
theorem finishes_reportFailure {f : Findings} (h : f.ofBuild ≠ []) (before : Machine) :
    BuildFinishes s m o stdout f before
      ((reportFailure s m ⟨f.ofBuild, f.ofBuild.length⟩).run before) := by
  rw [run_reportFailure]
  exact ⟨failureLine m f.ofBuild.length, .failed h, rfl⟩

/-- A chip on the way to which nothing went wrong is delivered, or reported for what it lacks. -/
theorem finishes_deliver (c : Chip) (before : Machine) :
    BuildFinishes s m o stdout ⟨some c, []⟩ before
      ((finishBuild s m o stdout ⟨some c, .empty⟩).run before) := by
  have hfinish : (finishBuild s m o stdout ⟨some c, .empty⟩).run before =
      _ := Action.run_bind (deliver s o stdout c) _ before
  rw [hfinish]
  by_cases hcomplete : c.violations = []
  · -- nothing is wrong with the chip, but perhaps with the file
    have hclean : (⟨some c, []⟩ : Findings).ofBuild = [] :=
      Findings.ofBuild_eq_nil_iff_complete.2 hcomplete
    rcases run_deliver_of_complete hcomplete s o stdout before with
      ⟨hok, herr⟩ | ⟨hfile, herr, path, e, hfailed⟩
    · rw [hok]
      refine ⟨_, .done rfl hclean, ?_⟩
      rw [hclean]
      exact herr
    · rw [hfailed]
      refine ⟨"", .unwritten _ hclean hfile, ?_⟩
      rw [hclean]
      exact herr.trans String.append_empty.symm
  · -- the violations come back with the error, and go into an empty sink
    obtain ⟨hincomplete, herr⟩ := run_deliver_of_violations hcomplete s o stdout before
    have hsink : withViolations .empty c.violations =
        ⟨c.violations.flatMap Violation.toDiagnostics,
          (c.violations.flatMap Violation.toDiagnostics).length⟩ :=
      DiagnosticSink.extend_eq (allErrors_violations c.violations) rfl
    have hsome : (⟨some c, []⟩ : Findings).ofBuild ≠ [] :=
      fun hnil => hcomplete (Findings.ofBuild_eq_nil_iff_complete.1 hnil)
    rw [hincomplete]
    dsimp only
    rw [hsink, BuildFinishes, ← herr]
    exact finishes_reportFailure s m o stdout hsome _

/-- However the chip has come out, the last part of a build prints what was found. -/
theorem finishes_finishBuild {f : Findings} (hreported : f.chip = none → f.found ≠ [])
    (before : Machine) : BuildFinishes s m o stdout f before
      ((finishBuild s m o stdout ⟨f.chip, f.sink⟩).run before) := by
  obtain ⟨chip, found⟩ := f
  by_cases hfound : found = []
  · subst hfound
    cases chip with
    -- a chip that is not there has been reported
    | none => exact absurd rfl (hreported rfl)
    | some c => exact finishes_deliver s m o stdout c before
  · -- an error has been counted, so it does not matter whether there is a chip
    have herrors : (⟨chip, found⟩ : Findings).sink.hasErrors = true :=
      decide_eq_true (List.length_pos_iff.2 hfound)
    have hbuild : (⟨chip, found⟩ : Findings).ofBuild = found := if_neg hfound
    have hfinish : finishBuild s m o stdout ⟨chip, (⟨chip, found⟩ : Findings).sink⟩ =
        reportFailure s m
          ⟨(⟨chip, found⟩ : Findings).ofBuild, (⟨chip, found⟩ : Findings).ofBuild.length⟩ := by
      rw [hbuild, finishBuild, herrors]
      cases chip <;> rfl
    have hsome : (⟨chip, found⟩ : Findings).ofBuild ≠ [] := by rwa [hbuild]
    rw [hfinish]
    exact finishes_reportFailure s m o stdout hsome before

end Finishing

/-- **A build prints its diagnostics**, and ends as they say. -/
theorem build_reports {s : Settings} {before : Machine} {root : Path} {m : Manifest}
    (h : ((loadProject s.config).run before).1 = .ok (root, m)) (outputDir : Option String)
    (stdout : Bool) : BuildReports s root m outputDir stdout (findings root m before) before
      ((build s outputDir stdout).run before) := by
  obtain ⟨after, htitle, hrun⟩ := run_build h outputDir stdout
  rw [hrun]
  obtain ⟨last, hends, herr⟩ := finishes_finishBuild s m (outputOptions root m outputDir) stdout
    (f := findings root m before) found_ne_nil after
  refine ⟨last, hends, ?_⟩
  rw [herr, htitle, String.append_assoc, String.append_assoc]

/-! ### Checking -/

/-- The report for programs on a chip and on what is wrong with it. -/
def jsonReport (chip : Option Chip) (ds : List Diagnostic) : String :=
  (Json.object [("errors", .nat ds.length), ("warnings", .nat 0),
    ("diagnostics", .array (ds.map Diagnostic.toJson)),
    ("chip", chip.elim .null fun c => c.summary.toJson)]).render ++ "\n"

/-- **What a check prints**, and its exit code. -/
structure CheckReports (s : Settings) (m : Manifest) (format : ReportFormat) (f : Findings)
    (before : Machine) (result : Outcome × Machine) : Prop where
  outcome : result.1 = .ok (if f.ofCheck = [] then 0 else 1)
  text : format = .text → result.2.err = before.err ++
    (messageLine s s!"   Checking {m.project.name}" ++ renderedText s.colour f.ofCheck ++
      messageLine s s!"   Result: {f.ofCheck.length} error(s), {0} warning(s)")
  json : format = .json →
    result.2.err = before.err ∧ result.2.out = before.out ++ jsonReport f.chip f.ofCheck

/-- A check whose manifest cannot be loaded ends there. -/
theorem check_of_error {s : Settings} {before : Machine} {e : CommandError}
    (h : ((loadProject s.config).run before).1 = .error e) (format : ReportFormat) :
    (check s format).run before = (.error e, ((loadProject s.config).run before).2) := by
  rw [check, Action.run_bind, h]
  rfl

/-- What is left to do for a check when the chip is there, or is not. -/
def finishCheck (s : Settings) (format : ReportFormat) (a : Assembled) : Action Outcome := do
  Action.log (a.chip.elim [] Chip.violationEvents)
  let checked := validated a
  printCheck s format checked
  return .ok (if checked.sink.hasErrors then 1 else 0)

/-- What a check says before it looks at the components. -/
def checkTitle (s : Settings) (m : Manifest) : ReportFormat → String
  | .text => messageLine s s!"   Checking {m.project.name}"
  | .json => ""

/-- A check says its title, finds what there is, and goes on to its last part. -/
theorem run_check {s : Settings} {before : Machine} {root : Path} {m : Manifest}
    (h : ((loadProject s.config).run before).1 = .ok (root, m)) (format : ReportFormat) :
    ∃ after : Machine,
      after.err = before.err ++ checkTitle s m format ∧ after.out = before.out ∧
      (check s format).run before = (finishCheck s format
        ⟨(findings root m before).chip, (findings root m before).sink⟩).run after := by
  rw [check, Action.run_bind, h]
  cases format with
  | text =>
    exact run_assemble_after s root m before (run_say s s!"   Checking {m.project.name}")
      (finishCheck s .text)
  | json =>
    -- saying nothing is printing the empty text
    have hnothing : ∀ now, (pure () : Action Unit).run now = ((), now.print .err "") := by
      intro now
      rw [Action.run_pure, Machine.print_empty]
    exact run_assemble_after s root m before hnothing (finishCheck s .json)

/-- A check adds what the chip lacks to what was found. -/
theorem validated_eq (f : Findings) :
    validated ⟨f.chip, f.sink⟩ = ⟨f.chip, ⟨f.ofCheck, f.ofCheck.length⟩⟩ :=
  congrArg (Assembled.mk f.chip) (DiagnosticSink.extend_eq (allErrors_violations _) rfl)

/-- The last part of a check prints, and exits with 1 if there is anything to report. -/
theorem run_finishCheck (s : Settings) (format : ReportFormat) (f : Findings) (before : Machine) :
    (finishCheck s format ⟨f.chip, f.sink⟩).run before =
      (.ok (if f.ofCheck = [] then 0 else 1),
        ((printCheck s format ⟨f.chip, ⟨f.ofCheck, f.ofCheck.length⟩⟩).run
          ((Action.log (f.chip.elim [] Chip.violationEvents)).run before).2).2) := by
  rw [finishCheck, Action.run_bind, validated_eq]
  dsimp only
  rw [Action.run_bind, Action.run_pure]
  -- the code asks whether errors were counted
  have hexit : (if DiagnosticSink.hasErrors ⟨f.ofCheck, f.ofCheck.length⟩ then 1 else 0) =
      if f.ofCheck = [] then 0 else 1 := by
    cases f.ofCheck <;> rfl
  rw [hexit]

/-- **A check prints its diagnostics**, and its exit code is what they say. -/
theorem check_reports {s : Settings} {before : Machine} {root : Path} {m : Manifest}
    (h : ((loadProject s.config).run before).1 = .ok (root, m)) (format : ReportFormat) :
    CheckReports s m format (findings root m before) before ((check s format).run before) := by
  obtain ⟨after, htitle, hout, hrun⟩ := run_check h format
  have herrors : AllErrors (findings root m before).ofCheck :=
    (allErrors_findings root m before).append (allErrors_violations _)
  have hwarnings : DiagnosticSink.warningCount ⟨(findings root m before).ofCheck,
      (findings root m before).ofCheck.length⟩ = 0 := herrors.countP_warning
  rw [hrun, run_finishCheck]
  refine ⟨rfl, ?_, ?_⟩
  · -- for people: the diagnostics, and then their number
    rintro rfl
    rw [printCheck, Action.run_bind, run_printDiagnostics, run_say, hwarnings, Machine.print_print]
    change after.err ++ _ = _
    simp only [htitle, checkTitle, String.append_assoc]
  · rintro rfl
    refine ⟨htitle.trans String.append_empty, ?_⟩
    change after.out ++ ((checkReport _).render ++ "\n") = _
    rw [hout, checkReport, hwarnings]
    rfl

end Netlist.Command
