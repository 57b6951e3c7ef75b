import Netlist.Proofs.Command.Agreement

/-!
# Output is all or nothing

A module is written in four steps: its text is made, the output directory is made, the file is
replaced, and the path is reported. `Writing` lists the ways in which this can end, one for each
step that can fail, and `canEnd_writeModule` proves the list complete for every file system that
keeps the promises of `Action.CanEnd`. The order of the steps is what counts: an incomplete chip is
found out before anything is touched, and once a directory may have been made there is only the file
itself left to change, which is replaced as a whole.

A build that prints its module asks for nothing that changes a file (`inspects_build`). A build that
writes it does so at its very end, after everything that can be wrong with the project has been
found (`canEnd_build`).

When a module cannot be written, no file is different, but directories can be new: an output
directory that has been made stays. A file system that makes directories on the way to the output
directory only, as the model does, makes none at the place of the file itself, unless the path of
the output directory leads through that place and up again (`WritesWhole.get?_eq_of_error`).
-/

namespace Netlist

namespace Verilog

variable {c : Chip} {o : OutputOptions} {places : Action.Places} {before after : Machine}
  {answer : Except ElaborateError Path}

/-! ### Writing a module -/

/-- **How the writing of a module ends**, seen from a working directory, if new directories can be
in some places. -/
inductive Writing (places : Action.Places) (c : Chip) (o : OutputOptions) (here : Location)
    (before : FileTree) : Except ElaborateError Path → FileTree → Prop where
  /-- The chip is incomplete. Nothing has been touched. -/
  | refused (lacking : c.violations ≠ []) :
      Writing places c o here before (.error (.incomplete c.name c.violations)) before
  /-- The directory or the file could not be made. There may be new directories. -/
  | failed {after : FileTree} (path : Path) (e : FileError) (complete : c.violations = [])
      (made : before.AddsDirectories (places here o.dir) after) :
      Writing places c o here before (.error (.file path e)) after
  /-- The module is in the file. There may be new directories besides. -/
  | written {made after : FileTree} {text : String} {loc : Location}
      (elaborated : elaborate c = .ok text)
      (made_dirs : before.AddsDirectories (places here o.dir) made)
      (located : made.locate here (o.pathFor c.name) = .ok loc)
      (whole : made.Replaces loc text.toUTF8 after) :
      Writing places c o here before (.ok (o.pathFor c.name)) after

/-- **These are the ways in which it can end.** The requests are followed in their order, each to
its failure and on from its success. -/
theorem canEnd_writeModule (h : (writeModule c o).CanEnd places before answer after) :
    Writing places c o before.here before.files answer after.files := by
  -- the log comes first, and changes no file
  obtain ⟨_, _, ⟨rfl, rfl⟩, h⟩ := Action.canEnd_bind_iff.1 h
  cases helaborate : elaborate c with
  | error e =>
    rw [helaborate] at h
    obtain ⟨rfl, rfl⟩ := h
    obtain ⟨rfl, hlacking⟩ := elaborate_eq_error helaborate
    exact .refused hlacking
  | ok text =>
    rw [helaborate] at h
    have hcomplete : c.violations = [] := (elaborate_eq_ok_iff.1 helaborate).1
    -- from here on there may be new directories, even if making them has failed
    obtain ⟨dirs, _, ⟨_, _, hmade, rfl, rfl⟩, h⟩ := Action.canEnd_bind_iff.1 h
    cases dirs with
    | error e =>
      obtain ⟨rfl, rfl⟩ := h
      exact .failed o.dir e hcomplete hmade
    | ok _ =>
      obtain ⟨_, _, ⟨_, _, hreplaced, rfl, rfl⟩, h⟩ := Action.canEnd_bind_iff.1 h
      cases hreplaced with
      | failed e =>
        obtain ⟨rfl, rfl⟩ := h
        exact .failed (o.pathFor c.name) e hcomplete hmade
      | replaced hlocated hwhole =>
        obtain ⟨_, _, ⟨rfl, rfl⟩, h⟩ := Action.canEnd_bind_iff.1 h
        obtain ⟨rfl, rfl⟩ := h
        exact .written helaborate hmade hlocated hwhole

/-- **A module is written as a whole or not at all.** Success means that the file in the output
directory holds the text of the elaboration, and no other file has changed. An incomplete chip
leaves everything as it is. After any other failure there is nothing new but directories, so every
file holds what it held, and is missing where it was missing. No directory is ever lost. -/
structure WritesWhole (places : Action.Places) (c : Chip) (o : OutputOptions) (here : Location)
    (before : FileTree) (answer : Except ElaborateError Path) (after : FileTree) : Prop where
  written : ∀ path, answer = .ok path → path = o.dir.join s!"{c.name}.{o.extension}" ∧
    ∃ text loc, elaborate c = .ok text ∧ after.find here path = .ok (loc, .file text.toUTF8) ∧
      ∀ other, other ≠ loc → after.fileAt? other = before.fileAt? other
  refused : c.violations ≠ [] →
    answer = .error (.incomplete c.name c.violations) ∧ after = before
  failed : ∀ e, answer = .error e → before.AddsDirectories (places here o.dir) after ∧
    ∀ loc, after.fileAt? loc = before.fileAt? loc
  kept : before.KeepsDirectories after

/-- However the writing ends, the module is written as a whole or not at all. -/
theorem Writing.writesWhole {here : Location} {before after : FileTree}
    (h : Writing places c o here before answer after) :
    WritesWhole places c o here before answer after := by
  cases h with
  | refused lacking =>
    exact ⟨nofun, fun _ => ⟨rfl, rfl⟩, fun _ _ => ⟨.refl before, fun _ => rfl⟩, fun _ => id⟩
  | failed path e complete made =>
    exact ⟨nofun, absurd complete, fun _ _ => ⟨made, made.fileAt?_eq⟩, fun _ => made.get?_of_some⟩
  | written elaborated made_dirs located whole =>
    refine ⟨?_, absurd (elaborate_eq_ok_iff.1 elaborated).1, nofun, ?_⟩
    · rintro _ ⟨⟩
      refine ⟨rfl, _, _, elaborated, whole.find located, ?_⟩
      intro other hother
      -- the directories that were made on the way are no files
      rw [← made_dirs.fileAt?_eq other, FileTree.fileAt?, whole.others other hother]
      rfl
    · intro loc hloc
      exact whole.keepsDirectories loc (made_dirs.get?_of_some hloc)

/-- A file of an output directory is not on the way there, if the way does not go up. -/
theorem not_onTheWay {t : FileTree} {here loc : Location}
    (hfile : Path.IsFileName s!"{c.name}.{o.extension}") (hup : ".." ∉ FileTree.route o.dir)
    (hloc : t.locate here (o.pathFor c.name) = .ok loc) : ¬ FileTree.OnTheWay here o.dir loc := by
  intro hway
  obtain ⟨upper, hupper, -, rfl⟩ := FileTree.locate_join hfile hloc
  -- the way ends at `upper`, so it does not pass anything that is longer
  have hlength := hway.length_le hup
  rw [FileTree.leadsTo, ← FileTree.foldl_of_walk hupper, List.length_append] at hlength
  exact Nat.not_succ_le_self upper.length hlength

/-- **What is at the place of the file stays there** when it cannot be written, if directories are
made on the way only and the path of the output directory does not go up. -/
theorem WritesWhole.get?_eq_of_error {here loc : Location} {before after : FileTree}
    {e : ElaborateError} (h : WritesWhole FileTree.OnTheWay c o here before (.error e) after)
    (hfile : Path.IsFileName s!"{c.name}.{o.extension}") (hup : ".." ∉ FileTree.route o.dir)
    (hloc : after.locate here (o.pathFor c.name) = .ok loc) : after.get? loc = before.get? loc := by
  rcases (h.failed e rfl).1 loc with hsame | ⟨hway, -, -⟩
  · exact hsame
  · exact absurd hway (not_onTheWay hfile hup hloc)

end Verilog

namespace Command

variable {s : Settings} {m : Manifest} {outputDir : Option String} {stdout : Bool}
  {places : Action.Places} {before after : Machine}

/-! ### Printing -/

/-- A line that is said changes no files. -/
theorem inspects_say (s : Settings) (line : String) : (say s line).Inspects true := by
  unfold say
  split
  · exact Action.inspects_pure ()
  · exact Action.inspects_printErrLine line

theorem inspects_printDiagnostics (s : Settings) (ds : List Diagnostic) :
    (printDiagnostics s ds).Inspects true := by
  -- one after the other
  induction ds with
  | nil => exact Action.inspects_pure _
  | cons d rest ih =>
    exact (Action.inspects_printErrLine (d.render s.colour)).bind fun _ => ih

theorem inspects_reportFailure (s : Settings) (m : Manifest) (sink : DiagnosticSink) :
    (reportFailure s m sink).Inspects true :=
  (inspects_printDiagnostics s sink.held).bind fun _ =>
    (Action.inspects_printErrLine _).bind fun _ => Action.inspects_pure _

theorem inspects_printModule (c : Chip) : (printModule c).Inspects true := by
  refine (Action.inspects_log _).bind fun _ => ?_
  cases Verilog.elaborate c with
  | error e => exact Action.inspects_pure _
  | ok text => exact (Action.inspects_printOut text).bind fun _ => Action.inspects_pure _

/-- A failure report changes no file, and is what the build comes to. -/
theorem canEnd_reportFailure {sink : DiagnosticSink} {outcome : Outcome}
    (h : (reportFailure s m sink).CanEnd places before outcome after) :
    outcome = .ok 1 ∧ after.files = before.files := by
  have hrun := (inspects_reportFailure s m sink).eq_run h
  rw [run_reportFailure] at hrun
  obtain ⟨rfl, rfl⟩ := Prod.mk.inj hrun
  exact ⟨rfl, rfl⟩

/-! ### Builds that print -/

/-- Delivering a chip on the standard output changes no files. -/
theorem inspects_deliver (s : Settings) (o : Verilog.OutputOptions) (c : Chip) :
    (deliver s o true c).Inspects true := by
  rw [deliver, if_pos rfl]
  exact inspects_printModule c

/-- The last part of a build that prints its module changes no files. -/
theorem inspects_finishBuild (s : Settings) (m : Manifest) (o : Verilog.OutputOptions)
    (a : Assembled) : (finishBuild s m o true a).Inspects true := by
  unfold finishBuild
  split
  · -- without an error there is a chip to deliver
    refine (inspects_deliver s o _).bind fun delivered => ?_
    split
    · exact Action.inspects_pure _
    · exact inspects_reportFailure s m _
    · exact Action.inspects_pure _
  · exact inspects_reportFailure s m a.sink

/-- **A build that prints its module changes no file.** -/
theorem inspects_build (s : Settings) (outputDir : Option String) :
    (build s outputDir true).Inspects true := by
  refine (inspects_loadProject s.config).bind fun loaded => ?_
  cases loaded with
  | error e => exact Action.inspects_pure _
  | ok project =>
    obtain ⟨root, m⟩ := project
    exact (inspects_say s _).bind fun _ => (inspects_assemble root m).bind
      (inspects_finishBuild s m (outputOptions root m outputDir))

/-! ### Builds that write -/

/-- A build comes to its last part with the findings of the project, and nothing has been changed
until then. -/
theorem canEnd_build {outcome : Outcome}
    (h : (build s outputDir stdout).CanEnd places before outcome after) :
    (∃ e, ((loadProject s.config).run before).1 = .error e ∧ outcome = .error e ∧
      after.files = before.files) ∨
    ∃ root m now, ((loadProject s.config).run before).1 = .ok (root, m) ∧
      now.files = before.files ∧ now.cwd = before.cwd ∧
      (finishBuild s m (outputOptions root m outputDir) stdout
        ⟨(findings root m before).chip, (findings root m before).sink⟩).CanEnd places now outcome
          after := by
  obtain ⟨loaded, now, hload, h⟩ := Action.canEnd_bind_iff.1 h
  have hloads : (loadProject s.config).Inspects false := inspects_loadProject s.config
  have hloaded : (loadProject s.config).run before = (loaded, now) := hloads.eq_run hload
  obtain ⟨hfiles, hcwd⟩ := hloads.canEnd_files hload
  cases loaded with
  | error e =>
    obtain ⟨rfl, rfl⟩ := h
    exact Or.inl ⟨e, congrArg Prod.fst hloaded, rfl, hfiles⟩
  | ok project =>
    obtain ⟨root, m⟩ := project
    -- a line is said, and the components are looked at
    obtain ⟨_, said, hsay, h⟩ := Action.canEnd_bind_iff.1 h
    obtain ⟨assembled, now', hassemble, h⟩ := Action.canEnd_bind_iff.1 h
    have hassembles : (assemble root m).Inspects false := inspects_assemble root m
    obtain ⟨hsaidFiles, hsaidCwd⟩ := (inspects_say s _).canEnd_files hsay
    obtain ⟨hfiles', hcwd'⟩ := hassembles.canEnd_files hassemble
    -- what they say is what they would have said before
    have hanswer : assembled = ⟨(findings root m before).chip, (findings root m before).sink⟩ := by
      have hsame := hassembles.onlyLooks.answer before said (hsaidFiles.trans hfiles)
        (hsaidCwd.trans hcwd)
      rwa [hassembles.eq_run hassemble, run_assemble] at hsame
    rw [hanswer] at h
    exact Or.inr ⟨root, m, now', congrArg Prod.fst hloaded,
      hfiles'.trans (hsaidFiles.trans hfiles), hcwd'.trans (hsaidCwd.trans hcwd), h⟩

/-- **Something is wrong with the project**: its manifest cannot be loaded, there are errors on the
way to its chip, or its chip is incomplete. -/
inductive IsFaulty (config : Option String) (before : Machine) : Prop where
  | unloaded {e : CommandError} (h : ((loadProject config).run before).1 = .error e)
  | erroneous {root : Path} {m : Manifest} (h : ((loadProject config).run before).1 = .ok (root, m))
      (some_found : (findings root m before).found ≠ [])
  | incomplete {root : Path} {m : Manifest} {c : Chip}
      (h : ((loadProject config).run before).1 = .ok (root, m))
      (chip : (findings root m before).chip = some c) (lacking : c.violations ≠ [])

/-- **What the delivery of a chip does to the files.** An incomplete chip is given back with all
files as they were; no other failure changes a file; and success means that the module has been
printed, or written as a whole. -/
structure Delivers (places : Action.Places) (o : Verilog.OutputOptions) (stdout : Bool) (c : Chip)
    (before : Machine) (answer : Except Verilog.ElaborateError Unit) (after : Machine) : Prop where
  refused : c.violations ≠ [] →
    answer = .error (.incomplete c.name c.violations) ∧ after.files = before.files
  failed : ∀ e, answer = .error e → ∀ loc, after.files.fileAt? loc = before.files.fileAt? loc
  written : answer = .ok () → stdout = false → ∃ path,
    Verilog.WritesWhole places c o before.here before.files (.ok path) after.files

/-- However the delivery of a chip ends, it does no more to the files than it may. -/
theorem canEnd_deliver {o : Verilog.OutputOptions} {c : Chip}
    {answer : Except Verilog.ElaborateError Unit}
    (h : (deliver s o stdout c).CanEnd places before answer after) :
    Delivers places o stdout c before answer after := by
  cases stdout with
  | true =>
    -- there is one way for it to end, which is the machine's
    obtain ⟨hfiles, -⟩ := (inspects_deliver s o c).canEnd_files h
    refine ⟨fun hlacking => ⟨?_, hfiles⟩, fun _ _ loc => by rw [hfiles], fun _ hfile => ?_⟩
    · obtain ⟨hanswer, -⟩ := run_deliver_of_violations hlacking s o true before
      rw [← hanswer, (inspects_deliver s o c).eq_run h]
    · cases hfile
  | false =>
    rw [deliver, if_neg Bool.false_ne_true] at h
    obtain ⟨written, now, hwrite, h⟩ := Action.canEnd_bind_iff.1 h
    have hwhole := (Verilog.canEnd_writeModule hwrite).writesWhole
    cases written with
    | error e =>
      obtain ⟨rfl, rfl⟩ := h
      refine ⟨fun hlacking => ?_, fun _ _ => (hwhole.failed e rfl).2, fun hok => ?_⟩
      · obtain ⟨herror, hfiles⟩ := hwhole.refused hlacking
        exact ⟨by rw [Except.error.inj herror], hfiles⟩
      · cases hok
    | ok path =>
      -- the path is said, which changes no file
      obtain ⟨_, said, hsay, rfl, rfl⟩ := Action.canEnd_bind_iff.1 h
      refine ⟨fun hlacking => ?_, fun e herror => ?_, fun _ _ => ⟨path, ?_⟩⟩
      · cases (hwhole.refused hlacking).1
      · cases herror
      · rwa [((inspects_say s _).canEnd_files hsay).1]

/-- The last part of a build reports what is wrong, or delivers the chip. -/
theorem canEnd_finishBuild {o : Verilog.OutputOptions} {f : Findings} {outcome : Outcome}
    (h : (finishBuild s m o stdout ⟨f.chip, f.sink⟩).CanEnd places before outcome after) :
    (f.found ≠ [] ∨ (∃ c, f.chip = some c ∧ c.violations ≠ []) →
      exitCode outcome = 1 ∧ after.files = before.files) ∧
    (exitCode outcome ≠ 0 → ∀ loc, after.files.fileAt? loc = before.files.fileAt? loc) ∧
    (exitCode outcome = 0 → stdout = false → ∃ c path, f.chip = some c ∧
      Verilog.WritesWhole places c o before.here before.files (.ok path) after.files) := by
  unfold finishBuild at h
  split at h
  · next c hchip herrors =>
    -- no errors have been counted, so only the chip can be at fault
    have hfound : f.found = [] := by
      by_contra hsome
      rw [show f.sink.hasErrors = true from decide_eq_true (List.length_pos_iff.2 hsome)] at herrors
      cases herrors
    have hlacking : f.found ≠ [] ∨ (∃ c, f.chip = some c ∧ c.violations ≠ []) →
        c.violations ≠ [] := by
      rintro (hsome | ⟨c', hchip', hlacking⟩)
      · exact absurd hfound hsome
      · rwa [Option.some.inj (hchip.symm.trans hchip')]
    obtain ⟨answer, now, hdeliver, h⟩ := Action.canEnd_bind_iff.1 h
    have hdelivers := canEnd_deliver hdeliver
    split at h
    · -- an incomplete chip is not delivered
      obtain ⟨rfl, rfl⟩ := h
      refine ⟨fun hfaulty => ?_, fun hcode => absurd rfl hcode, fun _ hfile => ?_⟩
      · cases (hdelivers.refused (hlacking hfaulty)).1
      · obtain ⟨path, hwhole⟩ := hdelivers.written rfl hfile
        exact ⟨c, path, hchip, hwhole⟩
    · -- a report on the chip changes no more files than its delivery has
      obtain ⟨rfl, hfiles⟩ := canEnd_reportFailure h
      rw [hfiles]
      refine ⟨fun hfaulty => ⟨rfl, (hdelivers.refused (hlacking hfaulty)).2⟩,
        fun _ => hdelivers.failed _ rfl, fun hcode => absurd hcode Nat.one_ne_zero⟩
    · next e _ =>
      obtain ⟨rfl, rfl⟩ := h
      refine ⟨fun hfaulty => ⟨rfl, (hdelivers.refused (hlacking hfaulty)).2⟩,
        fun _ => hdelivers.failed e rfl, fun hcode => absurd hcode Nat.one_ne_zero⟩
  · obtain ⟨rfl, hfiles⟩ := canEnd_reportFailure h
    exact ⟨fun _ => ⟨rfl, hfiles⟩, fun _ loc => by rw [hfiles],
      fun hcode => absurd hcode Nat.one_ne_zero⟩

/-- **What a build does to the files.** A build that prints its module leaves them alone, and so
does one that finds something wrong with the project. No build that fails changes what a file
holds, or whether there is one. A build that succeeds, and does not print, has written the module of
the project's chip as a whole. -/
structure BuildsWhole (places : Action.Places) (config outputDir : Option String) (stdout : Bool)
    (before : Machine) (code : Nat) (after : Machine) : Prop where
  printed : stdout = true → after.files = before.files
  faulty : IsFaulty config before → code = 1 ∧ after.files = before.files
  failed : code ≠ 0 → ∀ loc, after.files.fileAt? loc = before.files.fileAt? loc
  written : code = 0 → stdout = false → ∃ root m c path,
    ((loadProject config).run before).1 = .ok (root, m) ∧
    (findings root m before).chip = some c ∧
    Verilog.WritesWhole places c (outputOptions root m outputDir) before.here before.files
      (.ok path) after.files

/-- However a build ends, it does no more to the files than it may. -/
theorem canEnd_build_whole {outcome : Outcome}
    (h : (build s outputDir stdout).CanEnd places before outcome after) :
    BuildsWhole places s.config outputDir stdout before (exitCode outcome) after := by
  have hprinted : stdout = true → after.files = before.files := by
    rintro rfl
    exact ((inspects_build s outputDir).canEnd_files h).1
  rcases canEnd_build h with ⟨e, hload, rfl, hfiles⟩ | ⟨root, m, now, hload, hfiles, hcwd, h⟩
  · exact ⟨hprinted, fun _ => ⟨rfl, hfiles⟩, fun _ loc => by rw [hfiles],
      fun hcode => absurd hcode Nat.one_ne_zero⟩
  · -- paths lead where they led, as the working directory has not been left
    have hhere : now.here = before.here := by rw [Machine.here, Machine.here, hcwd]
    obtain ⟨hfaulty, hfailed, hwritten⟩ := canEnd_finishBuild h
    rw [hfiles] at hfaulty hfailed hwritten
    refine ⟨hprinted, fun hproject => hfaulty ?_, hfailed, fun hcode hfile => ?_⟩
    · -- what is wrong with the project is among its findings
      cases hproject with
      | unloaded herror =>
        rw [herror] at hload
        cases hload
      | erroneous hload' hfound =>
        obtain ⟨rfl, rfl⟩ := Prod.mk.inj (Except.ok.inj (hload'.symm.trans hload))
        exact Or.inl hfound
      | incomplete hload' hchip hlacking =>
        obtain ⟨rfl, rfl⟩ := Prod.mk.inj (Except.ok.inj (hload'.symm.trans hload))
        exact Or.inr ⟨_, hchip, hlacking⟩
    · obtain ⟨c, path, hchip, hwhole⟩ := hwritten hcode hfile
      rw [hhere] at hwhole
      exact ⟨root, m, c, path, hload, hchip, hwhole⟩

/-- A run comes to the exit code of its command, and changes no more files. -/
theorem canEnd_invocation {i : Invocation} {env : Environment} {code : Nat}
    (h : (i.run env).CanEnd places before code after) : ∃ outcome now,
      (i.request.carryOut (i.settings env)).CanEnd places before outcome now ∧
      code = exitCode outcome ∧ after.files = now.files := by
  obtain ⟨outcome, now, hcarry, h⟩ := Action.canEnd_bind_iff.1 h
  refine ⟨outcome, now, hcarry, ?_⟩
  cases outcome with
  | ok code =>
    obtain ⟨rfl, rfl⟩ := h
    exact ⟨rfl, rfl⟩
  | error e =>
    obtain ⟨rfl, rfl⟩ := h
    exact ⟨rfl, rfl⟩

/-! ### All or nothing -/

/-- **Output is all or nothing**, on every file system that only adds directories when it is asked
to make some, and that replaces a file as a whole or leaves it alone. A module is written as a whole
or not at all, whatever the chip, the options and the files are. If directories are made on the way
to the output directory only, and the way does not go up, then not even a directory is new at the
place of a file that could not be written. A build that prints its module, or finds something wrong
with its project, leaves all files alone; one that fails for another reason changes none. -/
theorem output_allOrNothing :
    (∀ places (c : Chip) (o : Verilog.OutputOptions) before answer after,
      (Verilog.writeModule c o).CanEnd places before answer after →
        Verilog.WritesWhole places c o before.here before.files answer after.files) ∧
    (∀ (c : Chip) (o : Verilog.OutputOptions) before e after loc,
      (Verilog.writeModule c o).CanEnd FileTree.OnTheWay before (.error e) after →
      Path.IsFileName s!"{c.name}.{o.extension}" → ".." ∉ FileTree.route o.dir →
      after.files.locate before.here (o.pathFor c.name) = .ok loc →
        after.files.get? loc = before.files.get? loc) ∧
    (∀ places (i : Invocation) env outputDir stdout before code after,
      ((i.asking (.build outputDir stdout)).run env).CanEnd places before code after →
        BuildsWhole places i.config outputDir stdout before code after) := by
  refine ⟨fun places c o before answer after h => ?_, fun c o before e after loc h => ?_,
    fun places i env outputDir stdout before code after h => ?_⟩
  · exact (Verilog.canEnd_writeModule h).writesWhole
  · exact (Verilog.canEnd_writeModule h).writesWhole.get?_eq_of_error
  · -- a run does with the files what its build does
    obtain ⟨outcome, now, hbuild, rfl, hfiles⟩ := canEnd_invocation h
    obtain ⟨hprinted, hfaulty, hfailed, hwritten⟩ := canEnd_build_whole hbuild
    rw [← hfiles] at hprinted hfaulty hfailed hwritten
    exact ⟨hprinted, hfaulty, hfailed, hwritten⟩

/-- A file that a module is to replace. -/
def staleMachine : Machine :=
  .fresh (FileTree.empty.putFile ["out", "mix.v"] "stale".toUTF8) ⟨"/"⟩

/-- A directory where a module is to go, with a file in it. -/
def blockedMachine : Machine :=
  .fresh (FileTree.empty.putFile ["out", "mix.v", "notes"] "mine".toUTF8) ⟨"/"⟩

/-- The loop replaces the stale file with its module, and does not go where a directory is in the
way; the project with the stray net is not built. -/
theorem output_allOrNothing_loopChip :
    (∃ text loc, Verilog.elaborate Chip.loopChip = .ok text ∧
      ((Verilog.writeModule Chip.loopChip ⟨⟨"out"⟩, "v"⟩).run staleMachine).2.files.find []
        ⟨"out/mix.v"⟩ = .ok (loc, .file text.toUTF8)) ∧
    ((Verilog.writeModule Chip.loopChip ⟨⟨"out"⟩, "v"⟩).run blockedMachine).2.files.get?
      ["out", "mix.v"] = some .directory ∧
    ((Verilog.writeModule Chip.loopChip ⟨⟨"out"⟩, "v"⟩).run blockedMachine).2.files.fileAt?
      ["out", "mix.v", "notes"] = some "mine".toUTF8 ∧
    ((((plainCheck.asking (.build none false)).run terminal).run strayMachine).1 = 1 ∧
      (((plainCheck.asking (.build none false)).run terminal).run strayMachine).2.files =
        strayMachine.files) := by
  obtain ⟨hwhole, hplace, hbuild⟩ := output_allOrNothing
  have hfailed : ((Verilog.writeModule Chip.loopChip ⟨⟨"out"⟩, "v"⟩).run blockedMachine).1 =
      .error (.file ⟨"out/mix.v"⟩ .isDirectory) := by decide +kernel
  refine ⟨?_, ?_, ?_, ?_⟩
  · have hok : ((Verilog.writeModule Chip.loopChip ⟨⟨"out"⟩, "v"⟩).run staleMachine).1 =
        .ok ⟨"out/mix.v"⟩ := by decide +kernel
    obtain ⟨-, text, loc, helaborate, hfind, -⟩ :=
      (hwhole _ _ _ _ _ _ (Action.canEnd_run _ staleMachine)).written _ hok
    exact ⟨text, loc, helaborate, hfind⟩
  · have hend := Action.canEnd_run (Verilog.writeModule Chip.loopChip ⟨⟨"out"⟩, "v"⟩) blockedMachine
    rw [hfailed] at hend
    have hfile : Path.IsFileName "mix.v" := ⟨by decide, by decide, by decide, by decide⟩
    exact hplace _ _ _ _ _ ["out", "mix.v"] hend hfile (by decide) (by decide +kernel)
  · exact ((hwhole _ _ _ _ _ _ (Action.canEnd_run _ blockedMachine)).failed _ hfailed).2 _
  · have hload : ((loadProject none).run strayMachine).1 = .ok (⟨"/"⟩, strayManifest) := by
      decide +kernel
    have hlacking : (findings ⟨"/"⟩ strayManifest strayMachine).chip.any
        (fun c => decide (c.violations ≠ [])) = true := by decide +kernel
    have hfaulty : IsFaulty none strayMachine := by
      obtain ⟨c, hchip, hsome⟩ := (Option.any_eq_true _ _).1 hlacking
      exact .incomplete hload hchip (of_decide_eq_true hsome)
    exact (hbuild _ plainCheck terminal none false _ _ _
      (Action.canEnd_run _ strayMachine)).faulty hfaulty

end Command

end Netlist
