import Netlist.CommandLine.Invocation

/-!
# Command line arguments

Arguments are options, the name of a command, and what the command is about. Options that go with
every command may stand before or behind its name, and what is said behind it wins. Letters of
options can be put together after one dash, and the value of an option may stand behind it or be
attached to it. After two dashes nothing is an option any more.
-/

namespace Netlist.CommandLine

/-- Options without a value. -/
inductive Flag where
  | quiet
  | verbose
  | version
  | stdout
deriving DecidableEq, Repr

/-- Options with a value. -/
inductive Setting where
  | colour
  | config
  | outputDir
  | format
deriving DecidableEq, Repr

/-- What a name of an option stands for. -/
inductive OptionName where
  | flag (f : Flag)
  | setting (s : Setting)
deriving DecidableEq, Repr

/-- The names that options have at some place of the command line. -/
structure OptionNames where
  /-- Names after two dashes. -/
  long : List (String × OptionName)
  short : List (Char × OptionName)
deriving Repr

/-- Two lists of names together. -/
def OptionNames.and (a b : OptionNames) : OptionNames :=
  ⟨a.long ++ b.long, a.short ++ b.short⟩

/-- The names of options that go with every command. -/
def commonNames : OptionNames where
  long := [("quiet", .flag .quiet), ("verbose", .flag .verbose), ("color", .setting .colour),
    ("config", .setting .config)]
  short := [('q', .flag .quiet), ('v', .flag .verbose)]

/-- The names of options before the name of a command. -/
def topNames : OptionNames :=
  commonNames.and ⟨[("version", .flag .version)], [('V', .flag .version)]⟩

/-- The names of commands. -/
inductive CommandName where
  | init
  | build
  | check
  | describe
deriving DecidableEq, Repr

/-- The command of the given name. -/
def CommandName.ofText? (s : String) : Option CommandName :=
  [("init", init), ("build", build), ("check", check), ("describe", describe)].lookup s

/-- The names of options behind the name of a command. -/
def CommandName.names : CommandName → OptionNames
  | init => commonNames
  | build => commonNames.and
      ⟨[("output-dir", .setting .outputDir), ("stdout", .flag .stdout)],
        [('o', .setting .outputDir)]⟩
  | check | describe => commonNames.and ⟨[("format", .setting .format)], [('f', .setting .format)]⟩

/-- What has been given at some place of the command line. -/
structure Given where
  quiet : Bool
  verbosity : Nat
  stdout : Bool
  colour : Option ColourChoice
  config : Option String
  outputDir : Option String
  format : Option ReportFormat
  words : List String
deriving DecidableEq, Repr

/-- Why there is no command to carry out. -/
inductive Stop where
  | usage
  | version
deriving DecidableEq, Repr

/-- The choice of the given name. -/
def colourOfText? (s : String) : Option ColourChoice :=
  [("auto", .auto), ("always", .always), ("never", .never)].lookup s

/-- The format of the given name. -/
def formatOfText? (s : String) : Option ReportFormat :=
  [("text", .text), ("json", .json)].lookup s

/-- A path as an argument; it must not be empty. -/
def pathOfText? (s : String) : Option String :=
  if s.isEmpty then none else some s

/-- Sets what has not been set before, if the text for it makes sense. -/
def setOnce {α : Type} (old new : Option α) : Except Stop (Option α) :=
  -- a text that makes no sense is as bad as a second one
  if old.isSome || new.isNone then .error .usage else .ok new

namespace Given

/-- Nothing has been given. -/
def nothing : Given := ⟨false, 0, false, none, none, none, none, []⟩

/-- Adds an option without a value. Only asking for more events can be repeated. -/
def addFlag (g : Given) : Flag → Except Stop Given
  | .quiet => if g.quiet then .error .usage else .ok { g with quiet := true }
  | .verbose => .ok { g with verbosity := g.verbosity + 1 }
  -- whatever follows it
  | .version => .error .version
  | .stdout => if g.stdout then .error .usage else .ok { g with stdout := true }

/-- Adds an option with a value. No option can be repeated. -/
def addSetting (g : Given) (s : Setting) (v : String) : Except Stop Given :=
  match s with
  | .colour => do return { g with colour := ← setOnce g.colour (colourOfText? v) }
  | .config => do return { g with config := ← setOnce g.config (some v) }
  | .outputDir => do return { g with outputDir := ← setOnce g.outputDir (pathOfText? v) }
  | .format => do return { g with format := ← setOnce g.format (formatOfText? v) }

/-- Adds an argument that is no option. -/
def addWord (g : Given) (w : String) : Given :=
  { g with words := g.words ++ [w] }

end Given

/-! ### Single arguments -/

/-- Splits a text at its first equals sign. -/
def splitEquals (cs : List Char) : String × Option String :=
  let name := cs.takeWhile (· != '=')
  -- the value can be empty, and can have further signs in it
  (String.ofList name, match cs.drop name.length with
    | [] => none
    | _ :: v => some (String.ofList v))

/-- What is still to come: perhaps the value of an option. -/
abbrev Pending := Option Setting

/-- An argument after two dashes. -/
def readLong (names : OptionNames) (cs : List Char) (g : Given) : Except Stop (Given × Pending) :=
  let (name, v) := splitEquals cs
  match names.long.lookup name, v with
  | some (.flag f), none => do return (← g.addFlag f, none)
  | some (.setting s), none => .ok (g, some s)
  | some (.setting s), some v => do return (← g.addSetting s v, none)
  | some (.flag _), some _ => .error .usage
  | none, _ => .error .usage

/-- The value of an option that stands right behind its letter. -/
def attachedValue : List Char → String
  | '=' :: v => String.ofList v
  | v => String.ofList v

/-- An argument after one dash. -/
def readShort (names : OptionNames) : List Char → Given → Except Stop (Given × Pending)
  | [], g => .ok (g, none)
  | c :: rest, g =>
    match names.short.lookup c with
    | none => .error .usage
    | some (.flag f) =>
      match g.addFlag f with
      | .error e => .error e
      | .ok g => readShort names rest g
    | some (.setting s) =>
      -- what follows the letter is its value; otherwise the next argument is
      if rest.isEmpty then .ok (g, some s)
      else do return (← g.addSetting s (attachedValue rest), none)

/-- Is the argument an option, or several? -/
def isOption (arg : String) : Bool :=
  arg.toList.head? == some '-' && arg != "-"

/-- An argument that is an option. -/
def readOption (names : OptionNames) (arg : String) (g : Given) : Except Stop (Given × Pending) :=
  match arg.toList with
  | '-' :: '-' :: name => readLong names name g
  | _ :: letters => readShort names letters g
  | [] => .error .usage

/-! ### All arguments -/

/-- After which no argument is an option. -/
def separator : String := "--"

/-- Reads arguments. With `stopAtWord` the first that is no option ends the reading; the arguments
from it on are given back. -/
def readArguments (names : OptionNames) (stopAtWord : Bool) :
    List String → Pending → Given → Except Stop (Given × List String)
  | [], none, g => .ok (g, [])
  -- an option is still waiting for its value
  | [], some _, _ => .error .usage
  | arg :: rest, some s, g =>
    -- an option is never the value of another
    if isOption arg then .error .usage
    else match g.addSetting s arg with
      | .error e => .error e
      | .ok g => readArguments names stopAtWord rest none g
  | arg :: rest, none, g =>
    if stopAtWord && (arg == separator || !isOption arg) then .ok (g, arg :: rest)
    -- what follows it are words, whatever they look like
    else if arg == separator then .ok (rest.foldl Given.addWord g, [])
    else if !isOption arg then readArguments names stopAtWord rest none (g.addWord arg)
    else match readOption names arg g with
      | .error e => .error e
      | .ok (g, pending) => readArguments names stopAtWord rest pending g

/-- What a command is asked for, with what has been given behind its name. -/
def requestOf (name : CommandName) (g : Given) : Except Stop Request :=
  match name, g.words with
  | .init, [] => .ok (.init none)
  | .init, [dir] => .ok (.init (some dir))
  | .build, [] => .ok (.build g.outputDir g.stdout)
  | .check, [] => .ok (.check (g.format.getD .text))
  | .describe, [source] =>
    if source.isEmpty then .error .usage else .ok (.describe source (g.format.getD .text))
  | _, _ => .error .usage

/-- The invocation from what has been given before and behind the name of a command. -/
def assemble (top sub : Given) (request : Request) : Invocation where
  quiet := top.quiet || sub.quiet
  -- behind the name the count starts again
  verbosity := if sub.verbosity = 0 then top.verbosity else sub.verbosity
  colour := (sub.colour.or top.colour).getD .auto
  config := sub.config.or top.config
  request := request

/-- **What the arguments ask for.** -/
def invocation (args : List String) : Except Stop Invocation := do
  -- up to the name of the command
  let (top, rest) ← readArguments topNames true args none .nothing
  match rest with
  | [] => .error .usage
  | word :: rest =>
    match CommandName.ofText? word with
    | none => .error .usage
    | some name =>
      let (sub, _) ← readArguments name.names false rest none .nothing
      return assemble top sub (← requestOf name sub)

end Netlist.CommandLine
