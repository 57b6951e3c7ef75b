import Netlist.Trace.Filter

/-!
# Invocations

What a user asks for on the command line: one of four commands, and options that go with every
command. Together with the environment the options decide whether messages are painted and which
events the log shows.
-/

namespace Netlist

/-- Whether messages are painted. -/
inductive ColourChoice where
  | auto
  | always
  | never
deriving DecidableEq, Repr

/-- How a report is written. -/
inductive ReportFormat where
  | text
  | json
deriving DecidableEq, Repr

/-- What is to be done. -/
inductive Request where
  /-- Start a project: in a new directory of this name, or in the working directory. -/
  | init (name : Option String)
  /-- Write the module of the project, perhaps to another directory than the project's own, or
  print it. -/
  | build (outputDir : Option String) (stdout : Bool)
  | check (format : ReportFormat)
  | describe (source : String) (format : ReportFormat)
deriving DecidableEq, Repr

/-- A command with the options that go with every command. -/
structure Invocation where
  quiet : Bool
  verbosity : Nat
  colour : ColourChoice
  /-- Where the manifest is, or its directory. -/
  config : Option String
  request : Request
deriving DecidableEq, Repr

/-- What a program can learn from its surroundings. -/
structure Environment where
  terminal : Bool
  noColour : Bool
  logFilter : Option String
deriving DecidableEq, Repr

namespace Invocation

/-- Are messages painted? -/
def paints (i : Invocation) (env : Environment) : Bool :=
  match i.colour with
  -- a choice of the user's is not asked about again
  | .auto => env.terminal && !env.noColour
  | .always => true
  | .never => false

/-- The most detailed level that the log shows unless the environment says otherwise. -/
def logLevel (i : Invocation) : LogLevel :=
  -- being quiet wins over being verbose
  if i.quiet then .error
  else match i.verbosity with
    | 0 => .warn
    | 1 => .info
    | 2 => .debug
    | _ => .trace

/-- **Which events the log shows.** A filter of the environment that makes no sense is passed
over. -/
def logFilter (i : Invocation) (env : Environment) : LogFilter :=
  (env.logFilter.bind LogFilter.ofText?).getD (.upTo i.logLevel.rank)

/-- Without a filter that makes sense, the options alone say what the log shows: what is as detailed
as they ask for, or less. -/
theorem shows_logFilter_of_no_filter {i : Invocation} {env : Environment}
    (h : env.logFilter.bind LogFilter.ofText? = none) (e : Event) :
    (i.logFilter env).shows e = decide (e.level.rank ≤ i.logLevel.rank) := by
  rw [logFilter, h, Option.getD_none, LogFilter.shows_upTo]

end Invocation

end Netlist
