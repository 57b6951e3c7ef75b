import Netlist.Command

/-!
# The program

Carries out the program's requests on the real system, one after the other. Everything that is
decided is decided by `program`; this file only reads and writes files, prints, and shows the events
that the log is to show.
-/

namespace Netlist.Main

/-- The number of the operating system's error, if it has one. -/
def errorNumber? : IO.Error → Option UInt32
  | .alreadyExists _ code _ => some code
  | .otherError code _ => some code
  | .noFileOrDirectory _ code _ => some code
  | .invalidArgument _ code _ => some code
  | .permissionDenied _ code _ => some code
  | .inappropriateType _ code _ => some code
  | .resourceExhausted _ code _ => some code
  | _ => none

/-- The failure that an error of the system stands for. -/
def fileError (e : IO.Error) : FileError :=
  match errorNumber? e with
  | some 2 => .notFound
  | some 17 => .alreadyExists
  | some 20 => .notDirectory
  | some 21 => .isDirectory
  | some 22 => .invalidArgument
  | some 36 => .nameTooLong
  | _ => .other (toString e)

/-- Does something that may fail. -/
def attempt {α : Type} (act : IO α) : IO (Except FileError α) := do
  try
    return .ok (← act)
  catch e =>
    -- nothing is thrown past this: what goes wrong is an answer
    return .error (fileError e)

/-- The text of a file. -/
def readText (path : Path) : IO (Except FileError String) := do
  match ← attempt (IO.FS.readBinFile path.text) with
  | .error e => return .error e
  | .ok content =>
    match String.fromUTF8? content with
    | some text => return .ok text
    | none => return .error .notText

/-- What is at a path: a directory can be opened but not read. -/
def kindAt (path : Path) : IO (Option FileKind) := do
  match ← attempt (IO.FS.Handle.mk path.text .read) with
  | .error _ => return none
  | .ok handle =>
    match ← attempt (handle.read 1) with
    | .ok _ => return some .file
    | .error _ => return some .directory

/-- Replaces a file as a whole: the text is written beside it first. -/
def replaceText (path : Path) (text : String) : IO (Except FileError Unit) := do
  let beside := path.text ++ ".new"
  match ← attempt (IO.FS.writeFile beside text) with
  | .error e => return .error e
  | .ok () =>
    match ← attempt (IO.FS.rename beside path.text) with
    | .ok () => return .ok ()
    -- what stands beside the file must not stay there
    | .error e =>
      let _ ← attempt (IO.FS.removeFile beside)
      return .error e

/-- Carries out an action. Events that the filter shows are printed among the messages. -/
def perform {α : Type} (filter : LogFilter) : Action α → IO α
  | .done a => return a
  | .readText path next => do perform filter (next (← readText path))
  | .lookAt path next => do perform filter (next (← kindAt path))
  | .workingDir next => do perform filter (next ⟨(← IO.currentDir).toString⟩)
  | .makeDirs path next => do
    perform filter (next (← attempt (IO.FS.createDirAll path.text)))
  | .writeText path text next => do
    perform filter (next (← attempt (IO.FS.writeFile path.text text)))
  | .replaceText path text next => do perform filter (next (← replaceText path text))
  | .print .out text next => do
    IO.print text
    perform filter next
  | .print .err text next => do
    IO.eprint text
    perform filter next
  | .note events next => do
    for event in events do
      if filter.shows event then IO.eprintln (filter.line event)
    perform filter next

/-- What the surroundings say. -/
def environment : IO Environment := do
  return {
    terminal := (← IO.getEnv "TERM").isSome
    noColour := (← IO.getEnv "NO_COLOR").isSome
    logFilter := ← IO.getEnv "RUST_LOG" }

end Netlist.Main

/-- Runs the program with the given arguments. -/
def main (args : List String) : IO UInt32 := do
  let env ← Netlist.Main.environment
  let code ← Netlist.Main.perform (Netlist.programFilter env args) (Netlist.program env args)
  return code.toUInt32
