import Netlist.FileTree
import Netlist.Trace

/-!
# Actions

What a command does is described before it is done: an `Action` asks for one thing after the other
(to read a file, to make a directory, to print, to note events) and goes on with the answer. An
action can be run on a `Machine`, a value with a file tree and the output so far, or against the
real system by whoever performs its requests.
-/

namespace Netlist

/-- Where printed text goes. -/
inductive Channel where
  | out
  | err
deriving DecidableEq, Repr

/-- A description of requests to make, and of what to do with the answers. -/
inductive Action (α : Type) where
  | done (a : α)
  | readText (path : Path) (next : Except FileError String → Action α)
  | lookAt (path : Path) (next : Option FileKind → Action α)
  | workingDir (next : Path → Action α)
  | makeDirs (path : Path) (next : Except FileError Unit → Action α)
  | writeText (path : Path) (text : String) (next : Except FileError Unit → Action α)
  /-- Replaces a file as a whole: it holds either the old or the new text. -/
  | replaceText (path : Path) (text : String) (next : Except FileError Unit → Action α)
  | print (channel : Channel) (text : String) (next : Action α)
  | note (events : List Event) (next : Action α)

namespace Action

variable {α β : Type}

/-- One action after the other. -/
def andThen : Action α → (α → Action β) → Action β
  | done a, f => f a
  | readText path next, f => readText path fun r => (next r).andThen f
  | lookAt path next, f => lookAt path fun r => (next r).andThen f
  | workingDir next, f => workingDir fun r => (next r).andThen f
  | makeDirs path next, f => makeDirs path fun r => (next r).andThen f
  | writeText path text next, f => writeText path text fun r => (next r).andThen f
  | replaceText path text next, f => replaceText path text fun r => (next r).andThen f
  | print channel text next, f => print channel text (next.andThen f)
  | note events next, f => note events (next.andThen f)

instance : Monad Action where
  pure := done
  bind := andThen

/-! ### Single requests -/

/-- The text of a file. -/
def fileText (path : Path) : Action (Except FileError String) :=
  readText path done

/-- What is at a path. -/
def kindAt (path : Path) : Action (Option FileKind) :=
  lookAt path done

/-- The working directory. -/
def currentDir : Action Path :=
  workingDir done

/-- Makes a directory and those above it. -/
def createDirs (path : Path) : Action (Except FileError Unit) :=
  makeDirs path done

/-- Writes a file. -/
def writeFile (path : Path) (text : String) : Action (Except FileError Unit) :=
  writeText path text done

/-- Replaces a file as a whole. -/
def replaceFile (path : Path) (text : String) : Action (Except FileError Unit) :=
  replaceText path text done

/-- Prints results. -/
def printOut (text : String) : Action Unit :=
  print .out text (done ())

/-- Prints a line of messages. -/
def printErrLine (text : String) : Action Unit :=
  print .err (text ++ "\n") (done ())

/-- Notes events. -/
def log (events : List Event) : Action Unit :=
  note events (done ())

end Action

/-! ### Running on a machine -/

/-- What actions work on. -/
structure Machine where
  files : FileTree
  /-- The working directory, as an absolute path. -/
  cwd : Path
  out : String
  err : String
  events : List Event

namespace Machine

/-- A machine that has not printed anything yet. -/
def fresh (files : FileTree) (cwd : Path) : Machine :=
  { files, cwd, out := "", err := "", events := [] }

/-- The location of the working directory. -/
def here (m : Machine) : Location :=
  FileTree.route m.cwd

/-- Prints a text. -/
def print (m : Machine) : Channel → String → Machine
  | .out, text => { m with out := m.out ++ text }
  | .err, text => { m with err := m.err ++ text }

/-- Writes a file, and says whether that was possible. -/
def writeText (m : Machine) (path : Path) (text : String) : Except FileError Unit × Machine :=
  match m.files.writeText m.here path text with
  | .ok files => (.ok (), { m with files })
  | .error e => (.error e, m)

/-- Replaces a file as a whole, and says whether that was possible. -/
def replaceText (m : Machine) (path : Path) (text : String) : Except FileError Unit × Machine :=
  match m.files.replaceText m.here path text with
  | .ok files => (.ok (), { m with files })
  | .error e => (.error e, m)

end Machine

/-- **Runs an action on a machine.** -/
def Action.run {α : Type} : Action α → Machine → α × Machine
  | done a, m => (a, m)
  | readText path next, m => (next (m.files.readText m.here path)).run m
  | lookAt path next, m => (next (m.files.kindAt? m.here path)).run m
  | workingDir next, m => (next m.cwd).run m
  -- what has been made on the way stays, even if the answer is an error
  | makeDirs path next, m =>
    let (files, answer) := m.files.makeDirs m.here path
    (next answer).run { m with files }
  | writeText path text next, m =>
    let (answer, m') := m.writeText path text
    (next answer).run m'
  | replaceText path text next, m =>
    let (answer, m') := m.replaceText path text
    (next answer).run m'
  | print channel text next, m => next.run (m.print channel text)
  | note events next, m => next.run { m with events := m.events ++ events }

namespace Action

variable {α β : Type}

/-- An action that does nothing has its answer and leaves the machine alone. -/
@[simp] theorem run_pure (a : α) (m : Machine) : (pure a : Action α).run m = (a, m) := rfl

/-- Running one action after the other. -/
@[simp] theorem run_bind (x : Action α) (f : α → Action β) (m : Machine) :
    (x >>= f).run m = (f (x.run m).1).run (x.run m).2 := by
  change (x.andThen f).run m = _
  -- on the requests of the first action; each leaves a machine for the next
  induction x generalizing m with
  | done a => rfl
  | readText path next ih => exact ih _ m
  | lookAt path next ih => exact ih _ m
  | workingDir next ih => exact ih _ m
  | makeDirs path next ih => exact ih _ _
  | writeText path text next ih => exact ih _ _
  | replaceText path text next ih => exact ih _ _
  | print channel text next ih => exact ih _
  | note events next ih => exact ih _

end Action

end Netlist
