import Netlist.Command.Check
import Netlist.Proofs.Files.Requests

/-!
# Actions that only look

Before a command says what is wrong with a project, it has looked at files, and nothing more: the
manifest has been searched and read, the components have been loaded, the chip has been built in
memory. `Action.OnlyLooks` says this of what an action does. It has two halves. The machine is left
as it was, apart from the log; and the answer depends on nothing that a command can have changed in
between, that is, on the files and the working directory alone. Both halves are needed to compare
two commands: each of them prints a line of its own before it looks at the components, and the
second half says that this makes no difference.

Whether an action only looks can be told from its text (`Inspects.onlyLooks`): it has no request in
it that changes a file, and none that prints. Of each command this is proved by following its text,
down to the single requests. That the search for a manifest and the list of components are
recursions is the only reason for an induction there.
-/

namespace Netlist

namespace Action

variable {α β : Type}

/-- **The action only looks**: it changes nothing but the log, and its answer depends on nothing but
the files and the working directory. -/
structure OnlyLooks (x : Action α) : Prop where
  machine : ∀ m, ∃ events, (x.run m).2 = { m with events := m.events ++ events }
  answer : ∀ m m', m'.files = m.files → m'.cwd = m.cwd → (x.run m').1 = (x.run m).1

/-- **Without requests that change or print anything, an action only looks.** -/
theorem Inspects.onlyLooks {x : Action α} (h : x.Inspects false) : x.OnlyLooks := by
  -- request by request: what is asked for is answered from the files and the working directory
  induction x with
  | done a => exact ⟨fun m => ⟨[], by rw [List.append_nil]; rfl⟩, fun _ _ _ _ => rfl⟩
  | readText path next ih =>
    refine ⟨fun m => (ih _ (h _)).machine m, fun m m' hfiles hcwd => ?_⟩
    have hsame : m'.files.readText m'.here path = m.files.readText m.here path := by
      rw [Machine.here, Machine.here, hfiles, hcwd]
    rw [run, run, hsame]
    exact (ih _ (h _)).answer m m' hfiles hcwd
  | lookAt path next ih =>
    refine ⟨fun m => (ih _ (h _)).machine m, fun m m' hfiles hcwd => ?_⟩
    have hsame : m'.files.kindAt? m'.here path = m.files.kindAt? m.here path := by
      rw [Machine.here, Machine.here, hfiles, hcwd]
    rw [run, run, hsame]
    exact (ih _ (h _)).answer m m' hfiles hcwd
  | workingDir next ih =>
    refine ⟨fun m => (ih _ (h _)).machine m, fun m m' hfiles hcwd => ?_⟩
    rw [run, run, hcwd]
    exact (ih _ (h _)).answer m m' hfiles hcwd
  | makeDirs path next ih => exact h.elim
  | writeText path text next ih => exact h.elim
  | replaceText path text next ih => exact h.elim
  | print channel text next ih => exact absurd h.1 Bool.false_ne_true
  | note events next ih =>
    refine ⟨fun m => ?_, fun m m' hfiles hcwd => (ih h).answer _ _ hfiles hcwd⟩
    obtain ⟨events', hevents⟩ := (ih h).machine { m with events := m.events ++ events }
    exact ⟨events ++ events', by rw [run, hevents, List.append_assoc]⟩

/-! ### Actions that say nothing -/

/-- The action prints no messages. It may write files and print results. -/
def IsMute (x : Action α) : Prop :=
  ∀ m, (x.run m).2.err = m.err

/-- What only looks prints no messages. -/
theorem OnlyLooks.isMute {x : Action α} (h : x.OnlyLooks) : x.IsMute := by
  intro m
  obtain ⟨events, hevents⟩ := h.machine m
  rw [hevents]

/-- Two actions without messages make one without messages. -/
theorem IsMute.bind {x : Action α} {f : α → Action β} (hx : x.IsMute) (hf : ∀ a, (f a).IsMute) :
    (x >>= f).IsMute := by
  intro m
  rw [run_bind, hf, hx]

theorem isMute_pure (a : α) : (pure a : Action α).IsMute :=
  fun _ => rfl

theorem isMute_log (events : List Event) : (log events).IsMute :=
  fun _ => rfl

theorem isMute_createDirs (path : Path) : (createDirs path).IsMute :=
  fun _ => rfl

/-- Replacing a file prints no messages, whether it succeeds or not. -/
theorem isMute_replaceFile (path : Path) (text : String) : (replaceFile path text).IsMute := by
  intro m
  change (m.replaceText path text).2.err = m.err
  unfold Machine.replaceText
  split <;> rfl

theorem isMute_printOut (text : String) : (printOut text).IsMute :=
  fun _ => rfl

end Action

/-! ### Printing -/

/-- Texts printed on one channel come one after the other. -/
theorem Machine.print_print (before : Machine) (channel : Channel) (text text' : String) :
    (before.print channel text).print channel text' = before.print channel (text ++ text') := by
  cases channel <;> simp only [Machine.print, String.append_assoc]

theorem Machine.print_empty (before : Machine) (channel : Channel) :
    before.print channel "" = before := by
  cases channel <;> simp only [Machine.print, String.append_empty]

/-! ### Loading a project -/

namespace Command

open Netlist.Action

variable {mayPrint : Bool}

/-- The search among directories only looks. -/
theorem inspects_firstWithManifest (dirs : List Path) :
    (firstWithManifest dirs).Inspects mayPrint := by
  -- directory by directory, up to the first with a manifest
  induction dirs with
  | nil => exact inspects_pure none
  | cons dir rest ih =>
    refine (inspects_kindAt (dir.join manifestName)).bind fun kind => ?_
    split
    · exact inspects_pure (some dir)
    · exact ih

theorem inspects_findRoot (start : Path) : (findRoot start).Inspects mayPrint := by
  refine (inspects_firstWithManifest start.ancestors).bind fun root => ?_
  cases root with
  | none => exact inspects_pure _
  | some root => exact inspects_pure _

/-- A project that is named is looked at, to tell a directory from a file. -/
theorem inspects_locateNamed (config : Path) : (locateNamed config).Inspects mayPrint := by
  refine (inspects_kindAt config).bind fun kind => ?_
  split
  · exact inspects_pure _
  · exact inspects_pure _

/-- However the project is given, finding it changes no files. -/
theorem inspects_locate (config : Option String) : (locate config).Inspects mayPrint := by
  cases config with
  | some path => exact (inspects_locateNamed ⟨path⟩).bind fun project => inspects_pure _
  | none =>
    refine inspects_currentDir.bind fun dir => (inspects_findRoot dir).bind fun root => ?_
    cases root with
    | error e => exact inspects_pure _
    | ok root => exact inspects_pure _

theorem inspects_readManifest (file : Path) : (readManifest file).Inspects mayPrint := by
  refine (inspects_fileText file).bind fun content => ?_
  cases content with
  | error e => exact inspects_pure _
  | ok text => exact inspects_pure _

/-- Loading a project changes no files. -/
theorem inspects_loadProject (config : Option String) :
    (loadProject config).Inspects mayPrint := by
  refine (inspects_locate config).bind fun located => ?_
  cases located with
  | error e => exact inspects_pure _
  | ok project =>
    refine (inspects_readManifest project.file).bind fun manifest => ?_
    cases manifest with
    | error e => exact inspects_pure _
    | ok m => exact (inspects_log _).bind fun _ => inspects_pure _

/-- Loading components changes no files. -/
theorem inspects_loadFrom (root : Path) (paths : List String) (l : Project.LoadedLibrary) :
    (Project.loadFrom root paths l).Inspects mayPrint := by
  -- file by file, with the library that the earlier ones have left
  induction paths generalizing l with
  | nil => exact inspects_pure l
  | cons path rest ih =>
    -- the rest goes on with what this file has added
    exact (inspects_fileText (root.join path)).bind fun content => ih (l.add path content)

theorem inspects_assemble (root : Path) (m : Manifest) : (assemble root m).Inspects mayPrint :=
  (inspects_loadFrom root m.componentPaths .empty).bind fun _ =>
    (inspects_log _).bind fun _ => inspects_pure _

theorem onlyLooks_loadProject (config : Option String) : (loadProject config).OnlyLooks :=
  (inspects_loadProject config).onlyLooks

theorem onlyLooks_assemble (root : Path) (m : Manifest) : (assemble root m).OnlyLooks :=
  (inspects_assemble root m).onlyLooks

end Command

end Netlist
