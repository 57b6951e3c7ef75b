import Netlist.Proofs.Command.Delivery
import Netlist.Proofs.Files.Written
import Netlist.Proofs.Names.ChipName
import Netlist.Proofs.Project.Loading
import Netlist.Proofs.Project.Plans
import Netlist.Proofs.Toml.Lines

/-!
# A new project can be built

Starting a project writes a manifest and one component source. The name of the chip is put into the
manifest as it stands, between two quotes, and is not looked at again before the project is built.
This file follows the two texts through everything that a build does with them.

* They are plain documents (`toList_manifestTemplate`), because an identifier needs no escapes. So
  their lines are read back, and make `freshManifest` and `firstComponent`.
* The plan of the manifest asks for `freshDesign`, which is sound and lacks nothing, so that its
  chip is built without a diagnostic and is complete (`exists_complete_chip`).
* The two files end with different names, so that each of them holds its text when both have been
  written (`holds_of_scaffold`), wherever the project is. What is there then is a new project
  (`IsFresh`), and a start that succeeds leaves one behind (`isFresh_of_init`), so that the next
  invocation can build it (`run_build_of_run_init`).

None of this depends on the name of the directory, but for the one thing that is proved of it in
`Names/ChipName`: that it is turned into an identifier.
-/

namespace Netlist.Command

open Toml (Line IsPlainText document statesAll)
open Toml (Line.written KeyPath.written writtenParts quoted)

/-! ### The texts -/

/-- The lines of the manifest of a new project. -/
def manifestLines (chipName : String) : List Line :=
  [.table ⟨[], "project"⟩,
    .text ⟨[], "name"⟩ chipName,
    .text ⟨[], "version"⟩ "0.1.0",
    .blank,
    .table ⟨[], "output"⟩,
    .text ⟨[], "dir"⟩ "build",
    .blank,
    .table ⟨[], "components"⟩,
    .texts ⟨[], "paths"⟩ ["components/adder.toml"],
    .blank,
    .table ⟨[], "chip"⟩,
    .texts ⟨[], "inputs"⟩ ["a", "b"],
    .texts ⟨[], "outputs"⟩ ["sum"],
    .blank,
    .element ⟨["chip"], "instances"⟩,
    .text ⟨[], "component"⟩ "Adder",
    .texts ⟨[], "inputs"⟩ ["a", "b"],
    .texts ⟨[], "outputs"⟩ ["sum"]]

/-- The manifest that is written is the document of its lines. -/
theorem toList_manifestTemplate (chipName : String) :
    (manifestTemplate chipName).toList = document (manifestLines chipName) := by
  -- in all other lines there is nothing but fixed characters
  have hname : ("name = \"" ++ chipName ++ "\"" ++ "\n").toList =
      (Line.text ⟨[], "name"⟩ chipName).written ++ ['\n'] := by
    simp [Line.written, KeyPath.written, writtenParts, quoted]
  rw [manifestTemplate, String.toList_join, List.flatMap_map]
  simp only [document, manifestLines, List.flatMap_cons, List.flatMap_nil, ← hname]
  rfl

/-- An identifier needs no escapes. -/
theorem isPlainText_of_isIdentifier {name : String} (h : IsIdentifier name) :
    IsPlainText name := by
  refine List.all_eq_true.2 fun c hc => Toml.isPlain_of_isBareKey ?_
  have hcontinuation := h.isContinuation hc
  rw [Toml.isBareKey, ← Identifier.isContinuation, hcontinuation, Bool.true_or]

/-- If the chip is called by an identifier, no line of the manifest needs escapes. -/
theorem isPlain_manifestLines {chipName : String} (h : IsIdentifier chipName) :
    ∀ l ∈ manifestLines chipName, l.IsPlain := by
  refine List.forall_mem_cons.2 ⟨by decide +kernel, ?_⟩
  -- the only line that depends on the name
  refine List.forall_mem_cons.2 ⟨⟨by decide +kernel, isPlainText_of_isIdentifier h⟩, ?_⟩
  decide +kernel

/-! ### What the texts describe -/

/-- The manifest of a new project. -/
def freshManifest (chipName : String) : Manifest where
  project := ⟨chipName, "0.1.0", ""⟩
  output := ⟨"build", "v"⟩
  componentPaths := ["components/adder.toml"]
  chip := ⟨["a", "b"], ["sum"], [], [⟨"Adder", some ["a", "b"], some ["sum"], none⟩]⟩

/-- The component of a new project. -/
def firstComponent : Component :=
  ⟨"Adder", ["a", "b"], ["z"], "Adds two 16-bit streams."⟩

/-- The table that the manifest of a new project describes. -/
def freshTable (chipName : String) : Toml.Table :=
  [("project", .table [("name", .string chipName), ("version", .string "0.1.0")]),
    ("output", .table [("dir", .string "build")]),
    ("components", .table [("paths", .array [.string "components/adder.toml"])]),
    ("chip", .table [("inputs", .array [.string "a", .string "b"]),
      ("outputs", .array [.string "sum"]),
      ("instances", .array [.table [("component", .string "Adder"),
        ("inputs", .array [.string "a", .string "b"]), ("outputs", .array [.string "sum"])]])])]

/-- How far the manifest has been read when its chip is reached. -/
def freshDraft (chipName : String) : Toml.Draft where
  root :=
    [("project", .table .header [("name", .value (.string chipName)),
        ("version", .value (.string "0.1.0"))]),
      ("output", .table .header [("dir", .value (.string "build"))])]
  here := .table ⟨[], "components"⟩
  current := [("paths", .value (.array [.string "components/adder.toml"]))]

/-- The manifest that is written is read as its table. -/
theorem parse?_manifestTemplate {chipName : String} (h : IsIdentifier chipName) :
    Toml.parse? (manifestTemplate chipName) = some (freshTable chipName) := by
  -- read in two parts, as a draft with the chip in it would be too large to be compared at once
  have hfirst : Toml.Draft.followAll? ((statesAll (manifestLines chipName)).take 7) .empty =
      some (freshDraft chipName) := rfl
  have hrest : ((Toml.Draft.followAll? ((statesAll (manifestLines chipName)).drop 7)
      (freshDraft chipName)).bind fun draft => draft.close?.map Toml.Items.toTable) =
        some (freshTable chipName) := rfl
  rw [Toml.parse?_of_document (toList_manifestTemplate chipName) (isPlain_manifestLines h),
    ← List.take_append_drop 7 (statesAll (manifestLines chipName)), Toml.Draft.followAll?_append,
    hfirst]
  exact hrest

/-- **The manifest that is written loads**, whatever the chip is called. -/
theorem ofText_manifestTemplate {chipName : String} (h : IsIdentifier chipName) :
    Manifest.ofText (manifestTemplate chipName) = .ok (freshManifest chipName) := by
  have hdecode : Manifest.decode Manifest.ofValue (manifestTemplate chipName) =
      .ok (freshManifest chipName) := by
    have hvalue : Manifest.ofValue (.table (freshTable chipName)) =
        .ok (freshManifest chipName) := rfl
    rw [Manifest.decode, parse?_manifestTemplate h]
    dsimp only
    rw [hvalue]
  have hproblem : (freshManifest chipName).problem? = none := by
    have hname : ¬ (freshManifest chipName).project.name.isEmpty = true := by
      rw [String.isEmpty_iff, ← String.toList_eq_nil_iff]
      exact h.toList_ne_nil
    have hother : ¬ (freshManifest "chip").project.name.isEmpty = true := by decide
    -- what is checked besides the name is the same for every new project
    calc
      (freshManifest chipName).problem? = (freshManifest "chip").problem? := by
        unfold Manifest.problem?
        rw [if_neg hname, if_neg hother]
        rfl
      _ = none := by decide +kernel
  rw [Manifest.ofText, hdecode]
  dsimp only [bind, Except.bind]
  rw [hproblem]

/-- The source that is written describes a component. -/
theorem describe_componentTemplate :
    Component.describe componentTemplate = .ok firstComponent := by
  decide +kernel

/-- The library of a new project. -/
def freshLibrary : Library :=
  ⟨[⟨Digest.ofSource componentTemplate, firstComponent⟩]⟩

/-- A single source is loaded without a diagnostic when it describes a component. -/
theorem add_of_describe {source : String} {d : Component} (h : Component.describe source = .ok d)
    (path : String) :
    (Project.LoadedLibrary.empty.add path (.ok source)).diagnostics = [] ∧
      (Project.LoadedLibrary.empty.add path (.ok source)).library =
        ⟨[⟨Digest.ofSource source, d⟩]⟩ := by
  have hdescribed : Library.empty.describe Component.describe source =
      Library.empty.addNew (Digest.ofSource source) d := by
    unfold Library.describe
    rw [h]
    rfl
  unfold Project.LoadedLibrary.add
  dsimp only
  rw [show Project.LoadedLibrary.empty.library = Library.empty from rfl, hdescribed]
  exact ⟨rfl, rfl⟩

/-! ### The chip -/

/-- What the plan of a new project asks for. -/
def freshDesign : Design where
  nets := [("a", .boundaryInput), ("b", .boundaryInput), ("sum", .boundaryOutput)]
  placements := [⟨firstComponent, ["a", "b"], ["sum"]⟩]

/-- The design of a new project is sound. -/
theorem sound_freshDesign : freshDesign.Sound where
  identifiers := by decide +kernel
  signals_nodup := by decide +kernel
  arity := by decide
  components := by decide +kernel
  ends_nodup := by decide
  ends_inner := by
    have hinner : ∀ e ∈ freshDesign.ends, ∃ net ∈ freshDesign.nets,
        net.1 = e.1 ∧ net.2.outerEnd? ≠ some e.2 := by decide
    intro e he
    obtain ⟨⟨name, kind⟩, hnet, rfl, houter⟩ := hinner e he
    exact ⟨kind, hnet, houter⟩

/-- It is the design that the plan asks for, whatever the chip is called. -/
theorem asksFor_freshDesign (chipName : String) :
    (freshManifest chipName).chip.AsksFor freshLibrary freshDesign where
  nets := rfl
  placements := .cons ⟨rfl, rfl, rfl⟩ .nil

/-- The chip of a new project. -/
def freshChip (chipName : String) : Chip :=
  (Project.buildFrom freshLibrary (freshManifest chipName).chip
    ⟨chipName, .empty, .empty, .empty⟩).chip

/-- **The chip of a new project is built without a diagnostic**, and is complete. -/
theorem buildChip_freshManifest {chipName : String} (h : IsIdentifier chipName) :
    (Project.buildChip (freshManifest chipName) freshLibrary).chip = some (freshChip chipName) ∧
      (Project.buildChip (freshManifest chipName) freshLibrary).diagnostics = [] ∧
      (freshChip chipName).violations = [] := by
  obtain ⟨c, hclean, hdesign, hlegible⟩ := Project.buildFrom_of_sound h
    (asksFor_freshDesign chipName) sound_freshDesign
  obtain ⟨hdiagnostics, rfl⟩ := Project.Build.clean?_eq_some_iff.1 hclean
  have hname : IsIdentifier (freshManifest chipName).project.name := h
  obtain ⟨hchip, hsame⟩ := Project.buildChip_of_isIdentifier freshLibrary hname
  refine ⟨hchip, hsame.trans hdiagnostics, ?_⟩
  have hcontent := hlegible.violations_eq
  rw [hdesign, show freshDesign.incomplete = [] by decide] at hcontent
  exact List.map_eq_nil_iff.1 hcontent

/-! ### The files -/

theorem isFileName_manifestName : Path.IsFileName manifestName :=
  ⟨by decide, by decide, by decide, by decide⟩

theorem isFileName_firstComponentFile : Path.IsFileName firstComponentFile :=
  ⟨by decide, by decide, by decide, by decide⟩

/-- **The files of a new project hold their texts** when all of them have been written. -/
theorem holds_of_scaffold {root : Path} {chipName : String} {before after : Machine}
    {paths : List Path} (h : (scaffold root chipName).run before = (.ok paths, after)) :
    ∀ x ∈ scaffoldFiles root chipName, after.files.Holds after.here x.1 x.2 := by
  -- the directory is made first, and whatever this has led to, the files are written then
  obtain ⟨made, hwritten⟩ : ∃ made, (writeAll (scaffoldFiles root chipName)).run
      { before with files := made } = (.ok (), after) := by
    rw [scaffold, Action.run_bind] at h
    have hmake : (Action.createDirs (root.join componentsDir)).run before =
        ((before.files.makeDirs before.here (root.join componentsDir)).2,
          { before with
            files := (before.files.makeDirs before.here (root.join componentsDir)).1 }) := rfl
    rw [hmake] at h
    refine ⟨(before.files.makeDirs before.here (root.join componentsDir)).1, ?_⟩
    dsimp only at h
    split at h
    · cases h
    · rw [Action.run_bind] at h
      split at h
      · cases h
      · next hall =>
        rw [Action.run_pure] at h
        exact Prod.ext hall (Prod.mk.inj h).2
  -- the two names are different
  have hapart : (scaffoldFiles root chipName).Pairwise fun x y =>
      FileTree.Apart (Machine.here { before with files := made }) x.1 y.1 := by
    refine List.pairwise_pair.2 ?_
    exact FileTree.apart_join root (root.join componentsDir) isFileName_manifestName
      isFileName_firstComponentFile (by decide)
  have hhere : after.here = Machine.here { before with files := made } :=
    congrArg FileTree.route (cwd_run_writeAll hwritten)
  rw [hhere]
  exact holds_of_run_writeAll hwritten hapart

/-- **There is a new project** in a directory of the machine: its two files are there. -/
structure IsFresh (root : Path) (chipName : String) (now : Machine) : Prop where
  manifest : now.files.Holds now.here (root.join manifestName) (manifestTemplate chipName)
  source : now.files.Holds now.here (root.join "components/adder.toml") componentTemplate

/-- Where the files have been written, there is a new project. -/
theorem isFresh_of_scaffold {root : Path} {chipName : String} {before after : Machine}
    {paths : List Path} (h : (scaffold root chipName).run before = (.ok paths, after)) :
    IsFresh root chipName after := by
  obtain ⟨hmanifest, hothers⟩ := List.forall_mem_cons.1 (holds_of_scaffold h)
  have hsource := List.forall_mem_singleton.1 hothers
  -- the manifest has the path of the source as one text
  have hpath : (root.join componentsDir).join firstComponentFile =
      root.join "components/adder.toml" :=
    Path.join_join root ⟨by decide, by decide, by decide, by decide⟩ (by decide)
  rw [hpath] at hsource
  exact ⟨hmanifest, hsource⟩

/-! ### What a build finds -/

namespace IsFresh

variable {root : Path} {chipName : String} {now : Machine}

/-- Looking and printing leave a new project as it is. -/
theorem of_inspects {α : Type} {x : Action α} {mayPrint : Bool} (h : IsFresh root chipName now)
    (hx : x.Inspects mayPrint) : IsFresh root chipName (x.run now).2 := by
  obtain ⟨hfiles, hcwd⟩ := hx.run_files now
  have hhere : (x.run now).2.here = now.here := congrArg FileTree.route hcwd
  constructor
  · rw [hfiles, hhere]
    exact h.manifest
  · rw [hfiles, hhere]
    exact h.source

/-- The manifest is read, and nothing is changed by it. -/
theorem run_readManifest (h : IsFresh root chipName now) (hname : IsIdentifier chipName) :
    (readManifest (root.join manifestName)).run now = (.ok (freshManifest chipName), now) := by
  have hrun : (Action.fileText (root.join manifestName)).run now =
      (now.files.readText now.here (root.join manifestName), now) := rfl
  rw [readManifest, Action.run_bind, hrun, h.manifest.readText]
  dsimp only
  rw [ofText_manifestTemplate hname]
  rfl

/-- The directory is the root of the project, if the user names it. -/
theorem run_loadProject (h : IsFresh root chipName now) (hname : IsIdentifier chipName) :
    ((loadProject (some root.text)).run now).1 = .ok (root, freshManifest chipName) := by
  have hlocate : (locate (some root.text)).run now =
      (.ok ⟨root, root.join manifestName⟩, now) := by
    obtain ⟨loc, hloc, -⟩ := h.manifest
    -- what is named is no file, so the manifest is searched in it
    have hkind := FileTree.kindAt?_ne_file isFileName_manifestName hloc
    have hrun : (Action.kindAt root).run now = (now.files.kindAt? now.here root, now) := rfl
    rw [locate, Action.run_bind, locateNamed, Action.run_bind, hrun]
    dsimp only
    split
    · next hfile => exact absurd hfile hkind
    · rfl
  rw [loadProject, Action.run_bind, hlocate]
  dsimp only
  rw [Action.run_bind, h.run_readManifest hname]
  rfl

/-- What is found of a new project is its chip, and nothing wrong. -/
theorem findings_eq (h : IsFresh root chipName now) (hname : IsIdentifier chipName) :
    findings root (freshManifest chipName) now = ⟨some (freshChip chipName), []⟩ := by
  have hcontent : Project.contentOf root now "components/adder.toml" = .ok componentTemplate :=
    h.source.readText
  -- one source is read and described
  have hloaded : ((Project.loadLibrary root (freshManifest chipName)).run now).1 =
      Project.LoadedLibrary.empty.add "components/adder.toml" (.ok componentTemplate) := by
    rw [Project.loadLibrary, Project.run_loadFrom, ← hcontent]
    rfl
  obtain ⟨hquiet, hlibrary⟩ := add_of_describe describe_componentTemplate "components/adder.toml"
  rw [← hloaded] at hquiet hlibrary
  obtain ⟨hchip, hdiagnostics, -⟩ := buildChip_freshManifest hname
  unfold findings
  dsimp only
  rw [hquiet, hlibrary]
  exact congrArg₂ Findings.mk hchip hdiagnostics

/-- **The project is built** when the module is only to be printed. -/
theorem run_build (h : IsFresh root chipName now) (hname : IsIdentifier chipName) {s : Settings}
    (hconfig : s.config = some root.text) (outputDir : Option String) :
    exitCode ((build s outputDir true).run now).1 = 0 := by
  have hload : ((loadProject s.config).run now).1 = .ok (root, freshManifest chipName) := by
    rw [hconfig]
    exact h.run_loadProject hname
  obtain ⟨last, hends, -⟩ := build_reports hload outputDir true
  obtain ⟨-, -, hcomplete⟩ := buildChip_freshManifest hname
  refine hends.exitCode_eq_zero_iff.2 ?_
  rw [h.findings_eq hname]
  exact Findings.ofBuild_eq_nil_iff_complete.2 hcomplete

end IsFresh

/-! ### Starting a project -/

/-- Saying one line after the other changes no files. -/
theorem inspects_sayAll {α : Type} (s : Settings) (line : α → String) (xs : List α) :
    (xs.forM fun x => say s (line x)).Inspects true := by
  induction xs with
  | nil => exact Action.inspects_pure _
  | cons x rest ih => exact (inspects_say s (line x)).bind fun _ => ih

/-- The directory is the one that was named, or else the working directory. -/
theorem eq_of_run_projectDir {name : Option String} {before : Machine} {dir : Path}
    (h : ((projectDir name).run before).1 = .ok dir) :
    dir = (name.map Path.mk).getD before.cwd := by
  cases name with
  | none => exact (Except.ok.inj h).symm
  | some n =>
    rw [projectDir, Action.run_bind] at h
    split at h
    · cases h
    · rw [Action.run_bind] at h
      split at h
      · cases h
      · exact (Except.ok.inj h).symm

/-- A directory that has been filled has a new project. -/
theorem isFresh_of_fillDir {s : Settings} {dir : Path} {before after : Machine}
    (h : (fillDir s dir).run before = (.ok 0, after)) :
    IsFresh dir (chipNameFor (dir.fileName?.getD unnamedChip)) after := by
  rw [fillDir, Action.run_bind, Action.run_bind] at h
  split at h
  · cases h
  · next paths hscaffold =>
    rw [Action.run_bind] at h
    have hfresh := isFresh_of_scaffold (Prod.fst_eq_iff.1 hscaffold)
    rw [← (Prod.mk.inj h).2]
    exact hfresh.of_inspects (inspects_sayAll s _ paths)

/-- **Starting a project leaves a new project behind**, if it succeeds: in the directory that was
named, or in the working directory. -/
theorem isFresh_of_init {s : Settings} {name : Option String} {before after : Machine}
    (h : (init s name).run before = (.ok 0, after)) :
    ∃ dir : Path, dir = (name.map Path.mk).getD before.cwd ∧
      IsFresh dir (chipNameFor (dir.fileName?.getD unnamedChip)) after := by
  rw [init, Action.run_bind] at h
  split at h
  · cases h
  · next dir hdir =>
    refine ⟨dir, eq_of_run_projectDir hdir, ?_⟩
    rw [Action.run_bind] at h
    split at h
    · cases h
    · exact isFresh_of_fillDir h

/-- **What is started can be built**, by a build that is asked to print the module. -/
theorem build_after_init {s s' : Settings} {name : Option String} {before after : Machine}
    (h : (init s name).run before = (.ok 0, after))
    (hconfig : s'.config = some ((name.map Path.mk).getD before.cwd).text)
    (outputDir : Option String) : exitCode ((build s' outputDir true).run after).1 = 0 := by
  obtain ⟨dir, rfl, hfresh⟩ := isFresh_of_init h
  exact hfresh.run_build (isIdentifier_chipNameFor _) hconfig outputDir

/-- **Starting and building, as a user sees it.** When a first invocation starts a project and ends
with exit code 0, a second one that is pointed at its directory prints the module and ends with exit
code 0 as well. The other options of the two make no difference, nor does what else is on the
machine. -/
theorem run_build_of_run_init {first second : Invocation} {env : Environment}
    {name outputDir : Option String} {before : Machine}
    (hfirst : first.request = .init name) (hsecond : second.request = .build outputDir true)
    (hconfig : second.config = some ((name.map Path.mk).getD before.cwd).text)
    (hok : ((first.run env).run before).1 = 0) :
    ((second.run env).run ((first.run env).run before).2).1 = 0 := by
  rw [Invocation.fst_run, hfirst] at hok
  obtain ⟨after, hinit⟩ :
      ∃ after, (init (first.settings env) name).run before = (.ok 0, after) := by
    -- an error is answered with 1, so the command itself has given 0
    have hcode := eq_ok_of_exitCode hok
    exact ⟨_, Prod.fst_eq_iff.1 hcode⟩
  have hafter : ((first.run env).run before).2 = after := by
    rw [Invocation.run, Action.run_bind, hfirst, Request.carryOut, hinit]
    rfl
  rw [hafter, Invocation.fst_run, hsecond]
  exact build_after_init hinit hconfig outputDir

/-! ### New projects -/

/-- **A new project can be built.** Whatever its directory is called, its chip is named by an
identifier: by the name of the directory if that is one, so that naming again changes nothing. The
manifest that is written for this name loads, with the name as the name of the project; and once
the files are written, wherever that is, the manifest is read from them, its components are loaded
and its chip is built without a diagnostic, and the chip is elaborated. So a build exits with 0 when
it is asked to print the module. -/
theorem new_project_builds (dirName : String) :
    checkIdentifier (chipNameFor dirName) = .ok () ∧
      (checkIdentifier dirName = .ok () → chipNameFor dirName = dirName) ∧
      chipNameFor (chipNameFor dirName) = chipNameFor dirName ∧
      ∃ m c text, m.project.name = chipNameFor dirName ∧
        Manifest.ofText (manifestTemplate (chipNameFor dirName)) = .ok m ∧
        Verilog.elaborate c = .ok text ∧
        ∀ root before paths after,
          (scaffold root (chipNameFor dirName)).run before = (.ok paths, after) →
            (readManifest (root.join manifestName)).run after = (.ok m, after) ∧
              findings root m after = ⟨some c, []⟩ ∧
              ∀ s : Settings, s.config = some root.text → ∀ outputDir,
                exitCode ((build s outputDir true).run after).1 = 0 := by
  have hname := isIdentifier_chipNameFor dirName
  refine ⟨checkIdentifier_eq_ok_iff.2 hname, ?_, chipNameFor_chipNameFor dirName, ?_⟩
  · intro hdir
    exact chipNameFor_of_isIdentifier (checkIdentifier_eq_ok_iff.1 hdir)
  · obtain ⟨-, -, hcomplete⟩ := buildChip_freshManifest hname
    refine ⟨freshManifest (chipNameFor dirName), freshChip (chipNameFor dirName),
      Verilog.moduleText (freshChip (chipNameFor dirName)), rfl, ofText_manifestTemplate hname,
      Verilog.elaborate_eq_ok_iff.2 ⟨hcomplete, rfl⟩, ?_⟩
    intro root before paths after hscaffold
    -- whatever else there is on the machine, the two files are
    have hfresh := isFresh_of_scaffold hscaffold
    exact ⟨hfresh.run_readManifest hname, hfresh.findings_eq hname,
      fun s hconfig outputDir => hfresh.run_build hname hconfig outputDir⟩

/-- A machine without any files. -/
def emptyMachine : Machine := .fresh .empty ⟨"/"⟩

/-- In a directory called `adder` there is nothing in the way of a new project, and the name of the
directory is that of the chip. -/
theorem new_project_builds_adder :
    checkIdentifier "adder" = .ok () ∧ chipNameFor "adder" = "adder" ∧
      ((scaffold ⟨"/adder"⟩ "adder").run emptyMachine).1 =
        .ok [⟨"/adder/weft.toml"⟩, ⟨"/adder/components/adder.toml"⟩] ∧
      exitCode ((build ⟨false, false, some "/adder"⟩ none true).run
        ((scaffold ⟨"/adder"⟩ "adder").run emptyMachine).2).1 = 0 := by
  have hvalid : checkIdentifier "adder" = .ok () := checkIdentifier_eq_ok_iff.2 (by decide)
  obtain ⟨-, hsame, -, m, c, text, -, -, -, hbuilds⟩ := new_project_builds "adder"
  have hname := hsame hvalid
  rw [hname] at hbuilds
  have hscaffold : ((scaffold ⟨"/adder"⟩ "adder").run emptyMachine).1 =
      .ok [⟨"/adder/weft.toml"⟩, ⟨"/adder/components/adder.toml"⟩] := by
    decide +kernel
  obtain ⟨-, -, hexit⟩ := hbuilds ⟨"/adder"⟩ emptyMachine _ _ (Prod.fst_eq_iff.1 hscaffold)
  exact ⟨hvalid, hname, hscaffold, hexit ⟨false, false, some "/adder"⟩ rfl none⟩

end Netlist.Command
