import Netlist.Action
import Netlist.Proofs.Files.Trees

/-!
# What actions can come to

The machine of the model makes directories and replaces files in one way. A real file system makes
weaker promises: making directories adds directories, perhaps not all that were asked for, and
replacing a file either puts the whole new text in its place or leaves it as it was, for reasons of
its own. `Action.CanEnd` relates an action and a machine to every answer and every machine that
these promises allow. Where new directories can be is a parameter: anywhere, or just on the way
along the path. What a machine of the model does is one of the possibilities for the latter
(`canEnd_run`), so whatever is proved of all of them is true of it.

Most of an action is about reading. `Action.Inspects` says of the text of an action that no request
in it changes a file. For such an action there is a single possibility (`Inspects.eq_run`).
-/

namespace Netlist

namespace Action

variable {α β : Type}

/-! ### Promises of the file system -/

/-- **What replacing a file may do**: it puts the whole text in the place of the file, or it fails
and leaves everything as it was. -/
inductive MayReplace (m : Machine) (path : Path) (text : String) :
    Except FileError Unit → Machine → Prop where
  | replaced {loc : Location} {files : FileTree} (located : m.files.locate m.here path = .ok loc)
      (whole : m.files.Replaces loc text.toUTF8 files) :
      MayReplace m path text (.ok ()) { m with files }
  | failed (e : FileError) : MayReplace m path text (.error e) m

/-- Where directories can be made for a path, seen from a working directory. -/
abbrev Places := Location → Path → Location → Prop

/-- **What an action can come to.** Directories can be new in any of the places, with any answer. -/
def CanEnd (places : Places) : Action α → Machine → α → Machine → Prop
  | done a, m, b, after => b = a ∧ after = m
  | readText path next, m, b, after =>
    (next (m.files.readText m.here path)).CanEnd places m b after
  | lookAt path next, m, b, after => (next (m.files.kindAt? m.here path)).CanEnd places m b after
  | workingDir next, m, b, after => (next m.cwd).CanEnd places m b after
  -- the answer need not fit what has been made
  | makeDirs path next, m, b, after => ∃ files answer,
    m.files.AddsDirectories (places m.here path) files ∧
      (next answer).CanEnd places { m with files } b after
  | writeText path text next, m, b, after =>
    (next (m.writeText path text).1).CanEnd places (m.writeText path text).2 b after
  | replaceText path text next, m, b, after => ∃ answer now,
    MayReplace m path text answer now ∧ (next answer).CanEnd places now b after
  | print channel text next, m, b, after => next.CanEnd places (m.print channel text) b after
  | note events next, m, b, after =>
    next.CanEnd places { m with events := m.events ++ events } b after

section Ends

variable {places : Places} {m after : Machine}

/-- One action after the other: the second goes on from what the first has come to. -/
theorem canEnd_bind_iff {x : Action α} {f : α → Action β} {b : β} :
    (x >>= f).CanEnd places m b after ↔
      ∃ a now, x.CanEnd places m a now ∧ (f a).CanEnd places now b after := by
  change (x.andThen f).CanEnd places m b after ↔ _
  -- on the requests of the first action; only two of them have more than one possible end
  induction x generalizing m with
  | done a =>
    refine ⟨fun h => ⟨a, m, ⟨rfl, rfl⟩, h⟩, ?_⟩
    rintro ⟨_, _, ⟨rfl, rfl⟩, h⟩
    exact h
  | readText path next ih => exact ih _
  | lookAt path next ih => exact ih _
  | workingDir next ih => exact ih _
  | makeDirs path next ih =>
    constructor
    · rintro ⟨files, answer, hadds, h⟩
      obtain ⟨a, now, hfirst, hsecond⟩ := (ih answer).1 h
      exact ⟨a, now, ⟨files, answer, hadds, hfirst⟩, hsecond⟩
    · rintro ⟨a, now, ⟨files, answer, hadds, hfirst⟩, hsecond⟩
      exact ⟨files, answer, hadds, (ih answer).2 ⟨a, now, hfirst, hsecond⟩⟩
  | writeText path text next ih => exact ih _
  | replaceText path text next ih =>
    constructor
    · rintro ⟨answer, now', hreplace, h⟩
      obtain ⟨a, now, hfirst, hsecond⟩ := (ih answer).1 h
      exact ⟨a, now, ⟨answer, now', hreplace, hfirst⟩, hsecond⟩
    · rintro ⟨a, now, ⟨answer, now', hreplace, hfirst⟩, hsecond⟩
      exact ⟨answer, now', hreplace, (ih answer).2 ⟨a, now, hfirst, hsecond⟩⟩
  | print channel text next ih => exact ih
  | note events next ih => exact ih

/-- The machine replaces a file as it may be replaced. -/
theorem mayReplace_replaceText (m : Machine) (path : Path) (text : String) :
    MayReplace m path text (m.replaceText path text).1 (m.replaceText path text).2 := by
  unfold Machine.replaceText
  split
  · next files h =>
    obtain ⟨loc, hloc, hwhole⟩ := FileTree.replaceText_eq_ok h
    exact .replaced hloc hwhole
  · next e h => exact .failed e

/-- **What a machine does is among what can be.** -/
theorem canEnd_run (x : Action α) (m : Machine) :
    x.CanEnd FileTree.OnTheWay m (x.run m).1 (x.run m).2 := by
  -- each request is answered as the machine answers it
  induction x generalizing m with
  | done a => exact ⟨rfl, rfl⟩
  | readText path next ih => exact ih _ m
  | lookAt path next ih => exact ih _ m
  | workingDir next ih => exact ih _ m
  | makeDirs path next ih =>
    exact ⟨_, _, FileTree.makeDirs_addsDirectories m.files m.here path, ih _ _⟩
  | writeText path text next ih => exact ih _ _
  | replaceText path text next ih => exact ⟨_, _, mayReplace_replaceText m path text, ih _ _⟩
  | print channel text next ih => exact ih _
  | note events next ih => exact ih _

end Ends

/-! ### Actions that change no files -/

/-- **The action changes no files.** It reads and notes events, and prints if it may. -/
def Inspects (mayPrint : Bool) : Action α → Prop
  | done _ => True
  | readText _ next => ∀ r, (next r).Inspects mayPrint
  | lookAt _ next => ∀ r, (next r).Inspects mayPrint
  | workingDir next => ∀ dir, (next dir).Inspects mayPrint
  | makeDirs _ _ => False
  | writeText _ _ _ => False
  | replaceText _ _ _ => False
  | print _ _ next => mayPrint = true ∧ next.Inspects mayPrint
  | note _ next => next.Inspects mayPrint

section Inspecting

variable {mayPrint : Bool} {x : Action α}

theorem inspects_pure (a : α) : (pure a : Action α).Inspects mayPrint := trivial

/-- Two actions that change no files make one that changes none. -/
theorem Inspects.bind {f : α → Action β} (hx : x.Inspects mayPrint)
    (hf : ∀ a, (f a).Inspects mayPrint) : (x >>= f).Inspects mayPrint := by
  change (x.andThen f).Inspects mayPrint
  -- on the requests of the first action; those that change files are excluded
  induction x with
  | done a => exact hf a
  | readText path next ih => exact fun r => ih r (hx r)
  | lookAt path next ih => exact fun r => ih r (hx r)
  | workingDir next ih => exact fun dir => ih dir (hx dir)
  | makeDirs path next ih => exact hx.elim
  | writeText path text next ih => exact hx.elim
  | replaceText path text next ih => exact hx.elim
  | print channel text next ih => exact ⟨hx.1, ih hx.2⟩
  | note events next ih => exact ih hx

theorem inspects_fileText (path : Path) : (fileText path).Inspects mayPrint :=
  fun _ => trivial

theorem inspects_kindAt (path : Path) : (kindAt path).Inspects mayPrint :=
  fun _ => trivial

theorem inspects_currentDir : currentDir.Inspects mayPrint :=
  fun _ => trivial

theorem inspects_log (events : List Event) : (log events).Inspects mayPrint := trivial

theorem inspects_printOut (text : String) : (printOut text).Inspects true := ⟨rfl, trivial⟩

theorem inspects_printErrLine (text : String) : (printErrLine text).Inspects true :=
  ⟨rfl, trivial⟩

/-- Where nothing is changed there is nothing to go wrong. -/
theorem Inspects.eq_run (h : x.Inspects mayPrint) {places : Places} {m after : Machine} {a : α}
    (hend : x.CanEnd places m a after) : x.run m = (a, after) := by
  -- every request that is left has one possible end
  induction x generalizing m with
  | done b =>
    obtain ⟨rfl, rfl⟩ := hend
    rfl
  | readText path next ih => exact ih _ (h _) hend
  | lookAt path next ih => exact ih _ (h _) hend
  | workingDir next ih => exact ih _ (h _) hend
  | makeDirs path next ih => exact h.elim
  | writeText path text next ih => exact h.elim
  | replaceText path text next ih => exact h.elim
  | print channel text next ih => exact ih h.2 hend
  | note events next ih => exact ih h hend

/-- A machine that runs such an action keeps its files and its directory. -/
theorem Inspects.run_files (h : x.Inspects mayPrint) (m : Machine) :
    (x.run m).2.files = m.files ∧ (x.run m).2.cwd = m.cwd := by
  induction x generalizing m with
  | done a => exact ⟨rfl, rfl⟩
  | readText path next ih => exact ih _ (h _) m
  | lookAt path next ih => exact ih _ (h _) m
  | workingDir next ih => exact ih _ (h _) m
  | makeDirs path next ih => exact h.elim
  | writeText path text next ih => exact h.elim
  | replaceText path text next ih => exact h.elim
  | print channel text next ih =>
    obtain ⟨hfiles, hcwd⟩ := ih h.2 (m.print channel text)
    cases channel <;> exact ⟨hfiles, hcwd⟩
  | note events next ih => exact ih h _

/-- **Files are left alone**, whatever the file system does. -/
theorem Inspects.canEnd_files (h : x.Inspects mayPrint) {places : Places} {m after : Machine}
    {a : α} (hend : x.CanEnd places m a after) : after.files = m.files ∧ after.cwd = m.cwd := by
  have hrun := h.run_files m
  rwa [h.eq_run hend] at hrun

end Inspecting

end Action

end Netlist
