import Netlist.Command
import Netlist.Proofs.Command.Reports

/-!
# Checks and builds agree

A check tells whether a build would succeed, without writing anything. `check_agrees_with_build`
says that the two commands never contradict each other, in exit codes and in what they print. What
each of them prints is known from the findings of the project (`build_reports`, `check_reports`), so
it is the findings that are compared here: both lists of diagnostics are empty or none is.
-/

namespace Netlist

namespace Command

/-- The exit code that a command comes to. -/
def exitCode : Outcome → Nat
  | .ok code => code
  | .error _ => 1

/-- Only a command that has come to its end gives 0, as an error is answered with 1. -/
theorem eq_ok_of_exitCode {outcome : Outcome} (h : exitCode outcome = 0) : outcome = .ok 0 := by
  cases outcome with
  | ok code => exact congrArg Except.ok h
  | error e => cases h

end Command

/-- The same options with another command. -/
def Invocation.asking (i : Invocation) (r : Request) : Invocation :=
  { i with request := r }

/-- A command that ends with an error exits with 1, after its message. -/
theorem Invocation.run_of_error {i : Invocation} {env : Environment} {before after : Machine}
    {e : CommandError}
    (h : (i.request.carryOut (i.settings env)).run before = (.error e, after)) :
    (i.run env).run before = (1, after.print .err (s!"error: {e.message}" ++ "\n")) := by
  rw [run, Action.run_bind, h]
  rfl

/-- The exit code of a run is that of its command. -/
theorem Invocation.fst_run (i : Invocation) (env : Environment) (before : Machine) :
    ((i.run env).run before).1 =
      Command.exitCode ((i.request.carryOut (i.settings env)).run before).1 := by
  rw [run, Action.run_bind]
  cases ((i.request.carryOut (i.settings env)).run before).1 with
  | ok code => rfl
  | error e => rfl

namespace Command

variable {s : Settings} {m : Manifest} {o : Verilog.OutputOptions} {stdout : Bool} {f : Findings}
  {outcome : Outcome} {last : String}

/-- A build that exits with 0 has nothing to report. -/
theorem BuildEnds.eq_nil_of_exitCode (h : BuildEnds s m o stdout f outcome last)
    (hexit : exitCode outcome = 0) : f.ofBuild = [] := by
  cases h with
  | done chip clean => exact clean
  | unwritten e clean toFile => exact clean
  | failed some_reported => cases hexit

/-- Printing a module cannot fail. -/
theorem BuildEnds.exitCode_eq_zero_iff (h : BuildEnds s m o true f outcome last) :
    exitCode outcome = 0 ↔ f.ofBuild = [] := by
  refine ⟨h.eq_nil_of_exitCode, fun hnil => ?_⟩
  cases h with
  | done chip clean => rfl
  | unwritten e clean toFile => cases toFile
  | failed some_reported => exact absurd hnil some_reported

/-- **Checks and builds agree**, on every machine and with the same options. If the manifest cannot
be loaded, both commands do the same and fail with the same message. Otherwise each prints its
diagnostics, and counts them; those of the build come first among those of the check, and they are
all if nothing went wrong on the way to the chip or there is no chip. A check exits with 0 exactly
when a build that prints its module does, and when any build does. -/
theorem check_agrees_with_build (i : Invocation) (env : Environment) (before : Machine)
    (outputDir : Option String) (stdout : Bool) (format : ReportFormat) :
    (∀ e, ((loadProject i.config).run before).1 = .error e → ∃ after : Machine,
      ((i.asking (.build outputDir stdout)).run env).run before = (1, after) ∧
      ((i.asking (.check format)).run env).run before = (1, after) ∧
      after.err = before.err ++ (s!"error: {e.message}" ++ "\n")) ∧
    (∀ root m, ((loadProject i.config).run before).1 = .ok (root, m) →
      BuildReports (i.settings env) root m outputDir stdout (findings root m before) before
        ((build (i.settings env) outputDir stdout).run before) ∧
      CheckReports (i.settings env) m format (findings root m before) before
        ((check (i.settings env) format).run before) ∧
      (findings root m before).ofBuild <+: (findings root m before).ofCheck ∧
      ((findings root m before).found = [] ∨ (findings root m before).chip = none →
        (findings root m before).ofBuild = (findings root m before).ofCheck)) ∧
    ((((i.asking (.check format)).run env).run before).1 = 0 ↔
      (((i.asking (.build outputDir true)).run env).run before).1 = 0) ∧
    ((((i.asking (.build outputDir stdout)).run env).run before).1 = 0 →
      (((i.asking (.check format)).run env).run before).1 = 0) := by
  have hbuild : ∀ stdout, (((i.asking (.build outputDir stdout)).run env).run before).1 =
      exitCode ((build (i.settings env) outputDir stdout).run before).1 :=
    fun stdout => Invocation.fst_run _ env before
  have hcheck : (((i.asking (.check format)).run env).run before).1 =
      exitCode ((check (i.settings env) format).run before).1 := Invocation.fst_run _ env before
  cases hload : ((loadProject i.config).run before).1 with
  | error e =>
    -- both commands stop at the same place
    have hsame : ∀ stdout, (build (i.settings env) outputDir stdout).run before =
        (.error e, ((loadProject i.config).run before).2) := build_of_error hload outputDir
    have hsame' : (check (i.settings env) format).run before =
        (.error e, ((loadProject i.config).run before).2) := check_of_error hload format
    refine ⟨?_, (fun root m hok => nomatch hok), ?_, ?_⟩
    · rintro _ ⟨⟩
      refine ⟨_, Invocation.run_of_error (hsame stdout), Invocation.run_of_error hsame', ?_⟩
      exact congrArg (· ++ _) ((onlyLooks_loadProject i.config).isMute before)
    · rw [hcheck, hbuild, hsame, hsame']
    · rw [hcheck, hbuild, hsame, hsame']
      exact id
  | ok loaded =>
    obtain ⟨root, m⟩ := loaded
    have hbuilds : ∀ stdout, BuildReports (i.settings env) root m outputDir stdout
        (findings root m before) before ((build (i.settings env) outputDir stdout).run before) :=
      build_reports hload outputDir
    have hchecks : CheckReports (i.settings env) m format (findings root m before) before
        ((check (i.settings env) format).run before) := check_reports hload format
    -- a check exits with 0 when it has nothing to print, which is when a build has not
    have hzero : exitCode ((check (i.settings env) format).run before).1 = 0 ↔
        (findings root m before).ofBuild = [] := by
      rw [hchecks.outcome, Findings.ofBuild_eq_nil_iff, exitCode]
      split
      · next h => exact iff_of_true rfl h
      · next h => exact iff_of_false Nat.one_ne_zero h
    -- the reports first, then a build that prints its module, then any build
    refine ⟨(fun e herror => nomatch herror), ?_, ?_, ?_⟩
    · rintro _ _ ⟨⟩
      exact ⟨hbuilds stdout, hchecks, Findings.prefix_ofCheck _, Findings.ofBuild_eq_ofCheck⟩
    · obtain ⟨last, hends, -⟩ := hbuilds true
      rw [hcheck, hbuild, hzero, hends.exitCode_eq_zero_iff]
    · obtain ⟨last, hends, -⟩ := hbuilds stdout
      rw [hcheck, hbuild, hzero]
      exact hends.eq_nil_of_exitCode

/-- The manifest of a project with a single net, which goes nowhere. -/
def strayManifest : Manifest where
  project := ⟨"stray", "", ""⟩
  output := Manifest.defaultOutput
  componentPaths := []
  chip := ⟨["a"], [], [], []⟩

/-- A machine with this manifest in its root directory. -/
def strayMachine : Machine :=
  .fresh (FileTree.empty.putFile [manifestName]
    "[project]\nname = \"stray\"\n\n[chip]\ninputs = [\"a\"]\n".toUTF8) ⟨"/"⟩

/-- A terminal with colours. -/
def terminal : Environment := ⟨true, false, none⟩

/-- A check without options. -/
def plainCheck : Invocation where
  quiet := false
  verbosity := 0
  colour := .never
  config := none
  request := .check .text

/-- The two commands agree on the stray net: it is the only thing that is wrong, both have the same
to print, and neither exits with 0. -/
theorem check_agrees_with_build_stray :
    ((loadProject none).run strayMachine).1 = .ok (⟨"/"⟩, strayManifest) ∧
      (findings ⟨"/"⟩ strayManifest strayMachine).ofCheck.map (·.code.number) = [301] ∧
      (findings ⟨"/"⟩ strayManifest strayMachine).ofBuild =
        (findings ⟨"/"⟩ strayManifest strayMachine).ofCheck ∧
      ((plainCheck.run terminal).run strayMachine).1 = 1 ∧
      (((plainCheck.asking (.build none true)).run terminal).run strayMachine).1 ≠ 0 := by
  have hload : ((loadProject none).run strayMachine).1 = .ok (⟨"/"⟩, strayManifest) := by
    decide +kernel
  have hfound : (findings ⟨"/"⟩ strayManifest strayMachine).found = [] := by decide +kernel
  have hcheck : ((plainCheck.run terminal).run strayMachine).1 = 1 := by
    decide +kernel
  obtain ⟨-, hloaded, hzero, -⟩ :=
    check_agrees_with_build plainCheck terminal strayMachine none true .text
  obtain ⟨-, -, -, hsame⟩ := hloaded _ _ hload
  refine ⟨hload, by decide +kernel, hsame (Or.inl hfound), hcheck, fun hbuild => ?_⟩
  -- else the check would exit with 0 as well
  have hcheck' : ((plainCheck.run terminal).run strayMachine).1 = 0 := hzero.2 hbuild
  rw [hcheck] at hcheck'
  cases hcheck'

end Command

end Netlist
