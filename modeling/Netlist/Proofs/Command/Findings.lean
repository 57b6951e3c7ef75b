import Netlist.Command.Build
import Netlist.Proofs.Command.Looking
import Netlist.Proofs.Project.Errors

/-!
# What commands find of a project

A check and a build share all that leads up to the chip. What they have in common is what they find
(`Findings`): the chip, if there is one, and what went wrong on the way to it. From the findings the
diagnostics of both commands are read off, for a build (`Findings.ofBuild`) and for a check
(`Findings.ofCheck`).

Findings depend on the files alone, and not on the lines that have been printed before the
components are looked at. `run_assemble_after` puts this into the form that both commands need:
whatever they say first, they go on with the findings from before.
-/

namespace Netlist.Command

/-- **What a command finds of a project**: the chip, if it could be created, and what went wrong
while the components were loaded and the chip was built. -/
structure Findings where
  chip : Option Chip
  found : List Diagnostic

/-- What is found on a machine. -/
def findings (root : Path) (m : Manifest) (before : Machine) : Findings :=
  let loaded := ((Project.loadLibrary root m).run before).1
  let built := Project.buildChip m loaded.library
  ⟨built.chip, loaded.diagnostics ++ built.diagnostics⟩

namespace Findings

/-- What the chip lacks. -/
def lacking (f : Findings) : List Diagnostic :=
  (f.chip.elim [] Chip.violations).flatMap Violation.toDiagnostics

/-- The diagnostics of a build. -/
def ofBuild (f : Findings) : List Diagnostic :=
  if f.found = [] then f.lacking else f.found

/-- The diagnostics of a check. -/
def ofCheck (f : Findings) : List Diagnostic :=
  f.found ++ f.lacking

/-- The sink that the findings have led to. -/
def sink (f : Findings) : DiagnosticSink := ⟨f.found, f.found.length⟩

/-- A check reports what a build reports, and perhaps more after it. -/
theorem prefix_ofCheck (f : Findings) : f.ofBuild <+: f.ofCheck := by
  unfold ofBuild ofCheck
  split
  · next h => rw [h, List.nil_append]
  · exact List.prefix_append _ _

/-- A build has nothing to report exactly when a check has not. -/
theorem ofBuild_eq_nil_iff {f : Findings} : f.ofBuild = [] ↔ f.ofCheck = [] := by
  unfold ofBuild ofCheck
  rw [List.append_eq_nil_iff]
  split
  · next h => exact (and_iff_right h).symm
  · -- what has been found is reported by both
    next h => exact ⟨fun hnil => absurd hnil h, fun hnil => absurd hnil.1 h⟩

/-- A chip that was built without a diagnostic leaves nothing to report just when it lacks
nothing. -/
theorem ofBuild_eq_nil_iff_complete {c : Chip} :
    (⟨some c, []⟩ : Findings).ofBuild = [] ↔ c.violations = [] := by
  show c.violations.flatMap Violation.toDiagnostics = [] ↔ c.violations = []
  rw [List.flatMap_eq_nil_iff, List.eq_nil_iff_forall_not_mem]
  constructor
  · intro hnone v hv
    exact Chip.toDiagnostics_ne_nil hv (hnone v hv)
  · intro hcomplete v hv
    exact absurd hv (hcomplete v)

/-- Where a missing chip has been reported, nothing to report means that there is a chip, and that
it lacks nothing. -/
theorem exists_of_ofBuild_eq_nil {f : Findings} (hreported : f.chip = none → f.found ≠ [])
    (h : f.ofBuild = []) : ∃ c, f = ⟨some c, []⟩ ∧ c.violations = [] := by
  obtain ⟨chip, found⟩ := f
  have hfound : found = [] := by
    by_contra hsome
    rw [ofBuild, if_neg hsome] at h
    exact hsome h
  subst hfound
  cases chip with
  | none => exact absurd rfl (hreported rfl)
  | some c => exact ⟨c, rfl, ofBuild_eq_nil_iff_complete.1 h⟩

/-- If nothing went wrong on the way to the chip, or there is no chip, both report the same. -/
theorem ofBuild_eq_ofCheck {f : Findings} (h : f.found = [] ∨ f.chip = none) :
    f.ofBuild = f.ofCheck := by
  unfold ofBuild ofCheck
  split
  · next hnil => rw [hnil, List.nil_append]
  · next hsome =>
    -- something is wrong, so there is no chip that could lack anything
    have hchip : f.chip = none := h.resolve_left hsome
    rw [lacking, hchip]
    exact (List.append_nil _).symm

end Findings

/-! ### Finding it out -/

/-- What went wrong on the way to the chip are errors. -/
theorem allErrors_findings (root : Path) (m : Manifest) (before : Machine) :
    AllErrors (findings root m before).found :=
  (Project.allErrors_loadLibrary root m before).append (Project.allErrors_buildChip m _)

/-- If there is no chip, it has been said why. -/
theorem found_ne_nil {root : Path} {m : Manifest} {before : Machine}
    (h : (findings root m before).chip = none) : (findings root m before).found ≠ [] :=
  List.append_ne_nil_of_right_ne_nil _ (Project.diagnostics_buildChip_ne_nil h)

/-- A command is given what is found of the project. -/
theorem run_assemble (root : Path) (m : Manifest) (before : Machine) :
    ((assemble root m).run before).1 =
      ⟨(findings root m before).chip, (findings root m before).sink⟩ := by
  have hloaded := Project.allErrors_loadLibrary root m before
  have hbuilt := Project.allErrors_buildChip m ((Project.loadLibrary root m).run before).1.library
  rw [assemble, Action.run_bind, Action.run_bind, Action.run_pure]
  refine congrArg (Assembled.mk _) ?_
  -- all of them are errors, so the sink counts every one
  rw [DiagnosticSink.extend_eq hloaded rfl, DiagnosticSink.extend_eq hbuilt rfl]
  rfl

/-- Whatever has been printed since, the project is the one that was there before. -/
theorem run_assemble_after {α : Type} (s : Settings) (root : Path) (m : Manifest)
    (before : Machine) {first : Action Unit} {text : String}
    (hfirst : ∀ now, first.run now = ((), now.print .err text)) (rest : Assembled → Action α) :
    ∃ after : Machine, after.err = before.err ++ text ∧ after.out = before.out ∧
      (first >>= fun _ => assemble root m >>= rest).run ((loadProject s.config).run before).2 =
        (rest ⟨(findings root m before).chip, (findings root m before).sink⟩).run after := by
  -- only the log and the messages have changed when the components are looked at
  obtain ⟨events, hloaded⟩ := (onlyLooks_loadProject s.config).machine before
  rw [Action.run_bind, hfirst, Action.run_bind, hloaded]
  let now : Machine := { before with events := before.events ++ events }.print .err text
  have hlooks := onlyLooks_assemble root m
  have hanswer : ((assemble root m).run now).1 = _ :=
    (hlooks.answer before now rfl rfl).trans (run_assemble root m before)
  obtain ⟨events', hassembled⟩ := hlooks.machine now
  rw [hanswer, hassembled]
  refine ⟨{ now with events := now.events ++ events' }, ?_, ?_, rfl⟩
  · rfl
  · rfl

end Netlist.Command
