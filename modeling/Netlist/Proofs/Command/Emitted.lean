import Netlist.Proofs.Command.Delivery
import Netlist.Proofs.Command.FreshProject
import Netlist.Proofs.Project.Instances
import Netlist.Proofs.Verilog.Reading

/-!
# What the module of a build instantiates

A build that exits with 0 has emitted one text, on the standard output or in one file (`Emits`).
Read back, it is a module with the name of the project, and its instances have the components that
the manifest declares, in the same order (`exists_module_of_build`).

So the manifest decides whether a module instantiates itself. Nothing on the way from the two names
to the text compares them: the name of the chip comes from the manifest, a component is named in a
source of its own, and modules and components have no table in common. A module instantiates itself
exactly when the manifest declares an instance of the component that is called like the project
(`build_instantiates_itself_iff`). Starting a project in a directory called `Adder` is enough for
it, as its component has this name as well (`build_can_instantiate_itself`).
-/

namespace Netlist

/-- If a run exits with 0, its command has come to its end. -/
theorem Invocation.run_of_zero {i : Invocation} {env : Environment} {before after : Machine}
    (h : (i.run env).run before = (0, after)) :
    (i.request.carryOut (i.settings env)).run before = (.ok 0, after) := by
  rw [run, Action.run_bind] at h
  cases houtcome : ((i.request.carryOut (i.settings env)).run before).1 with
  | error e =>
    -- an error is answered with 1
    rw [houtcome] at h
    cases h
  | ok code =>
    rw [houtcome, Action.run_pure] at h
    obtain ⟨rfl, hafter⟩ := Prod.mk.inj h
    exact Prod.ext houtcome hafter

namespace Command

open Verilog (Module moduleText)

variable {s : Settings} {root : Path} {m : Manifest} {c : Chip} {outputDir : Option String}
  {stdout : Bool} {before after : Machine} {text : String}

/-- **The text is what a build has emitted**: it has been printed, or it is what the file of the
project's module holds. -/
def Emits (root : Path) (m : Manifest) (outputDir : Option String) (stdout : Bool)
    (before after : Machine) (text : String) : Prop :=
  if stdout then after.out = before.out ++ text
  else ∃ loc, after.files.find before.here
    ((outputOptions root m outputDir).pathFor m.project.name) = .ok (loc, .file text.toUTF8)

/-! ### Builds that succeed -/

theorem run_build_of_zero {i : Invocation} {env : Environment}
    (h : ((i.asking (.build outputDir stdout)).run env).run before = (0, after)) :
    (build (i.settings env) outputDir stdout).run before = (.ok 0, after) :=
  Invocation.run_of_zero h

theorem fst_run_build (i : Invocation) (env : Environment) (outputDir : Option String)
    (stdout : Bool) (before : Machine) :
    (((i.asking (.build outputDir stdout)).run env).run before).1 =
      exitCode ((build (i.settings env) outputDir stdout).run before).1 :=
  Invocation.fst_run _ env before

/-- A build that succeeds has found nothing wrong, and its chip is complete. -/
theorem exists_chip_of_build (h : (build s outputDir stdout).run before = (.ok 0, after)) :
    ∃ root m c, ((loadProject s.config).run before).1 = .ok (root, m) ∧
      findings root m before = ⟨some c, []⟩ ∧ c.violations = [] := by
  cases hload : ((loadProject s.config).run before).1 with
  | error e =>
    rw [build_of_error hload] at h
    cases h
  | ok loaded =>
    obtain ⟨root, m⟩ := loaded
    obtain ⟨last, hends, -⟩ := build_reports hload outputDir stdout
    rw [h] at hends
    obtain ⟨c, hfindings, hcomplete⟩ :=
      Findings.exists_of_ofBuild_eq_nil found_ne_nil (hends.eq_nil_of_exitCode rfl)
    exact ⟨root, m, c, rfl, hfindings, hcomplete⟩

/-! ### What they have emitted -/

/-- A module that is printed comes after everything that has been printed before. -/
theorem out_of_build (hload : ((loadProject s.config).run before).1 = .ok (root, m))
    (hfindings : findings root m before = ⟨some c, []⟩) (hcomplete : c.violations = [])
    (h : (build s outputDir true).run before = (.ok 0, after)) :
    after.out = before.out ++ moduleText c := by
  obtain ⟨now, -, hout, hrun⟩ := run_assemble_after s root m before
    (run_say s s!"   Building {projectTitle m}")
    (finishBuild s m (outputOptions root m outputDir) true)
  -- a build is a line that is said, the project, and its last part
  have hbuild : (build s outputDir true).run before =
      (finishBuild s m (outputOptions root m outputDir) true ⟨some c, .empty⟩).run now := by
    rw [build, Action.run_bind, hload]
    rw [hfindings] at hrun
    exact hrun
  have helaborate : Verilog.elaborate c = .ok (moduleText c) :=
    Verilog.elaborate_eq_ok_iff.2 ⟨hcomplete, rfl⟩
  have hfinish : (finishBuild s m (outputOptions root m outputDir) true ⟨some c, .empty⟩).run now =
      _ := Action.run_bind (deliver s (outputOptions root m outputDir) true c) _ now
  have hprints : (deliver s (outputOptions root m outputDir) true c).run now =
      (.ok (), { now with events := now.events ++ Verilog.elaborateEvents c }.print .out
        (moduleText c)) := by
    rw [deliver, if_pos rfl, printModule, Action.run_bind, helaborate]
    rfl
  rw [hbuild, hfinish, hprints] at h
  rw [← (Prod.mk.inj h).2, ← hout]
  rfl

/-- A module that is written is in the file that is named after the chip. -/
theorem find_of_build (hload : ((loadProject s.config).run before).1 = .ok (root, m))
    (hfindings : findings root m before = ⟨some c, []⟩)
    (h : (build s outputDir false).run before = (.ok 0, after)) :
    ∃ loc, after.files.find before.here ((outputOptions root m outputDir).pathFor c.name) =
      .ok (loc, .file (moduleText c).toUTF8) := by
  -- what any file system may do, the machine does
  have hends := canEnd_build_whole (Action.canEnd_run (build s outputDir false) before)
  rw [h] at hends
  obtain ⟨root', m', c', path, hload', hchip, hwhole⟩ := hends.written rfl rfl
  obtain ⟨rfl, rfl⟩ := Prod.mk.inj (Except.ok.inj (hload'.symm.trans hload))
  rw [hfindings] at hchip
  obtain rfl := Option.some.inj hchip
  obtain ⟨rfl, text, loc, helaborate, hfind, -⟩ := hwhole.written path rfl
  obtain rfl := (Verilog.elaborate_eq_ok_iff.1 helaborate).2
  exact ⟨loc, hfind⟩

/-- **What a build emits is the module of the project's chip.** -/
theorem exists_module_of_build (h : (build s outputDir stdout).run before = (.ok 0, after)) :
    ∃ root m text M, ((loadProject s.config).run before).1 = .ok (root, m) ∧
      Emits root m outputDir stdout before after text ∧ Module.read? text = some M ∧
      M.name = m.project.name ∧
      M.instances.map (·.component) = m.chip.instances.map (·.component) := by
  obtain ⟨root, m, c, hload, hfindings, hcomplete⟩ := exists_chip_of_build h
  have hbuilt : (Project.buildChip m ((Project.loadLibrary root m).run before).1.library).chip =
      some c := congrArg Findings.chip hfindings
  have hclean : (Project.buildChip m
      ((Project.loadLibrary root m).run before).1.library).diagnostics = [] :=
    (List.append_eq_nil_iff.1 (congrArg Findings.found hfindings)).2
  -- a chip that is built without a diagnostic has the instances that are declared
  have hchip := Project.isChipOf_buildChip hbuilt hclean
  refine ⟨root, m, moduleText c, Module.ofChip c, hload, ?_,
    Module.read?_text (Verilog.wellNamed_ofChip hchip.reachable), hchip.name, ?_⟩
  · unfold Emits
    cases stdout with
    | true =>
      rw [if_pos rfl]
      exact out_of_build hload hfindings hcomplete h
    | false =>
      rw [if_neg Bool.false_ne_true, ← hchip.name]
      exact find_of_build hload hfindings h
  · rw [← hchip.components, Module.ofChip, List.map_map]
    rfl

/-! ### Modules that instantiate themselves -/

/-- **When a module instantiates itself.** A build that exits with 0 has emitted the text of a
module that is called like the project. One of its instances has this name as its component exactly
when the manifest declares an instance of the component of this name. -/
theorem build_instantiates_itself_iff (i : Invocation) (env : Environment)
    (outputDir : Option String) (stdout : Bool) (before after : Machine)
    (h : ((i.asking (.build outputDir stdout)).run env).run before = (0, after)) :
    ∃ root m text M, ((loadProject i.config).run before).1 = .ok (root, m) ∧
      Emits root m outputDir stdout before after text ∧ Module.read? text = some M ∧
      M.name = m.project.name ∧
      ((∃ x ∈ M.instances, x.component = M.name) ↔
        ∃ p ∈ m.chip.instances, p.component = m.project.name) := by
  obtain ⟨root, m, text, M, hload, hemits, hread, hname, hcomponents⟩ :=
    exists_module_of_build (run_build_of_zero h)
  refine ⟨root, m, text, M, hload, hemits, hread, hname, ?_⟩
  calc
    (∃ x ∈ M.instances, x.component = M.name) ↔ M.name ∈ M.instances.map (·.component) :=
      List.mem_map.symm
    _ ↔ m.project.name ∈ m.chip.instances.map (·.component) := by rw [hname, hcomponents]
    _ ↔ ∃ p ∈ m.chip.instances, p.component = m.project.name := List.mem_map

/-- A machine with a new project in its root directory, named after a directory called `Adder`. -/
def selfishMachine : Machine :=
  ((scaffold ⟨"/"⟩ (chipNameFor "Adder")).run emptyMachine).2

/-- A check of the project in the root directory. -/
def rootCheck : Invocation :=
  { plainCheck with config := some "/" }

/-- The machine has a new project. -/
theorem isFresh_selfishMachine : IsFresh ⟨"/"⟩ (chipNameFor "Adder") selfishMachine := by
  have hscaffold : ((scaffold ⟨"/"⟩ (chipNameFor "Adder")).run emptyMachine).1 =
      .ok [⟨"/weft.toml"⟩, ⟨"/components/adder.toml"⟩] := by
    decide +kernel
  exact isFresh_of_scaffold (Prod.fst_eq_iff.1 hscaffold)

theorem load_selfishMachine : ((loadProject (some "/")).run selfishMachine).1 =
    .ok (⟨"/"⟩, freshManifest (chipNameFor "Adder")) :=
  isFresh_selfishMachine.run_loadProject (isIdentifier_chipNameFor "Adder")

/-- Its build exits with 0. -/
theorem run_selfishMachine : ∃ after,
    ((rootCheck.asking (.build none true)).run terminal).run selfishMachine = (0, after) := by
  have hexit := isFresh_selfishMachine.run_build (isIdentifier_chipNameFor "Adder")
    (s := rootCheck.settings terminal) rfl none
  exact ⟨_, Prod.fst_eq_iff.1 ((fst_run_build rootCheck terminal none true _).trans hexit)⟩

/-- The component of a new project is called like the chip of this one. -/
theorem exists_instance_selfish :
    ∃ p ∈ (freshManifest (chipNameFor "Adder")).chip.instances,
      p.component = (freshManifest (chipNameFor "Adder")).project.name := by
  have hname : chipNameFor "Adder" = "Adder" := chipNameFor_of_isIdentifier (by decide)
  exact ⟨⟨"Adder", some ["a", "b"], some ["sum"], none⟩, List.mem_singleton.2 rfl, hname.symm⟩

/-- A build can exit with 0 and emit a module that instantiates itself. -/
theorem build_can_instantiate_itself :
    ¬ ∀ (i : Invocation) (env : Environment) (outputDir : Option String) (stdout : Bool)
      (before after : Machine) (root : Path) (m : Manifest) (text : String) (M : Module),
      ((i.asking (.build outputDir stdout)).run env).run before = (0, after) →
      ((loadProject i.config).run before).1 = .ok (root, m) →
      Emits root m outputDir stdout before after text → Module.read? text = some M →
        ∀ x ∈ M.instances, x.component ≠ M.name := by
  intro hnever
  obtain ⟨after, hrun⟩ := run_selfishMachine
  obtain ⟨root, m, text, M, hload, hemits, hread, hname, hcomponents⟩ :=
    exists_module_of_build (run_build_of_zero hrun)
  obtain ⟨rfl, rfl⟩ := Prod.mk.inj (Except.ok.inj (hload.symm.trans load_selfishMachine))
  -- the only declared instance is of the component called like the project
  have hdeclared : M.name ∈ M.instances.map (·.component) := by
    rw [hname, hcomponents]
    exact List.mem_map.2 exists_instance_selfish
  obtain ⟨x, hx, hself⟩ := List.mem_map.1 hdeclared
  exact hnever rootCheck terminal none true selfishMachine after _ _ text M hrun
    load_selfishMachine hemits hread x hx hself

/-- The project in a directory called `Adder` is built, and its module instantiates itself. -/
theorem build_instantiates_itself_iff_selfish : ∃ after M,
    ((rootCheck.asking (.build none true)).run terminal).run selfishMachine = (0, after) ∧
      Module.read? after.out = some M ∧ M.name = "Adder" ∧
        ∃ x ∈ M.instances, x.component = M.name := by
  obtain ⟨after, hrun⟩ := run_selfishMachine
  obtain ⟨root, m, text, M, hload, hemits, hread, hname, hiff⟩ :=
    build_instantiates_itself_iff rootCheck terminal none true selfishMachine after hrun
  obtain ⟨rfl, rfl⟩ := Prod.mk.inj (Except.ok.inj (hload.symm.trans load_selfishMachine))
  have hquiet : selfishMachine.out = "" := by decide +kernel
  have hout : after.out = text := by
    rw [show after.out = selfishMachine.out ++ text from hemits, hquiet, String.empty_append]
  have hcalled : chipNameFor "Adder" = "Adder" := chipNameFor_of_isIdentifier (by decide)
  exact ⟨after, M, hrun, hout ▸ hread, hname.trans hcalled, hiff.2 exists_instance_selfish⟩

end Command

end Netlist
