import Netlist.Net

/-!
# Events

What happens while a project is built is told as a list of events. Each event has a level; a line
of the log is the level, the spans of work within which the event happened, the message and the
fields of the event. Which events are shown is decided by a filter when the log is written, not
where the event arises; filters choose events by the area of the program they come from, by their
fields and by their spans.
-/

namespace Netlist

/-- How detailed an event is. -/
inductive LogLevel where
  | error
  | warn
  | info
  | debug
  | trace
deriving DecidableEq, Repr

namespace LogLevel

/-- Rank of a level: the more detailed, the higher. -/
def rank : LogLevel → Nat
  | error => 1
  | warn => 2
  | info => 3
  | debug => 4
  | trace => 5

/-- The level as a log line shows it. -/
def text : LogLevel → String
  | error => "ERROR"
  | warn => "WARN"
  | info => "INFO"
  | debug => "DEBUG"
  | trace => "TRACE"

end LogLevel

/-- Which events a log shows: those up to a rank; rank zero shows none. -/
abbrev LogThreshold := Nat

/-- Something that happened while a project was built. -/
inductive Event where
  | manifestLoaded (root project : String)
  | componentDescribed (component : String) (inputs outputs : Nat) (source : String)
  | componentKnown (component source : String)
  | netCreated (chip net : String) (kind : NetKind)
  | bound (net : String) (slot : Slot) (instanceId : InstanceId)
  | instanceRegistered (chip name component : String)
  /-- An instance could not be added, and everything bound for it has been released. -/
  | rolledBack (chip component message : String)
  | netIncomplete (chip net message : String)
  | elaborated (nets instances bytes : Nat)
  | moduleWritten (chip path : String)
  /-- The event happened while the named chip was elaborated. -/
  | elaborating (chip : String) (event : Event)
deriving DecidableEq, Repr

/-- A piece of work within which events happen. -/
structure LogSpan where
  name : String
  area : String
  fields : List (String × String)
deriving DecidableEq, Repr

namespace LogSpan

/-- The work of making the text of a module. -/
def elaborate (chip : String) : LogSpan where
  name := "elaborate"
  area := "weft_verilog::emit"
  fields := [("chip", chip)]

/-- How detailed a span is: whoever asks for steps sees the spans they happen in. -/
def level (_ : LogSpan) : LogLevel := .info

end LogSpan

/-- A field as a log line shows it. -/
def fieldText (field : String × String) : String :=
  field.1 ++ "=" ++ field.2

/-- The span as a log line shows it. -/
def LogSpan.text (s : LogSpan) : String :=
  s.name ++ "\x7b" ++ String.intercalate " " (s.fields.map fieldText) ++ "\x7d"

namespace Event

/-- How detailed an event is. -/
def level : Event → LogLevel
  | manifestLoaded .. => .debug
  | componentDescribed .. => .debug
  | componentKnown .. => .trace
  | netCreated .. => .debug
  | bound .. => .trace
  | instanceRegistered .. => .debug
  | rolledBack .. => .debug
  | netIncomplete .. => .debug
  | elaborated .. => .info
  | moduleWritten .. => .info
  | elaborating _ event => event.level

/-- The area of the program that tells of the event, as filters name it. -/
def area : Event → String
  | manifestLoaded .. => "weft::pipeline"
  | componentDescribed .. => "weft_netlist::component"
  | componentKnown .. => "weft_netlist::component"
  | netCreated .. => "weft_netlist::chip"
  | bound .. => "weft_netlist::chip"
  | instanceRegistered .. => "weft_netlist::chip"
  | rolledBack .. => "weft_netlist::chip"
  | netIncomplete .. => "weft_netlist::validate"
  | elaborated .. => "weft_verilog::emit"
  | moduleWritten .. => "weft_verilog::writer"
  | elaborating _ event => event.area

/-- What happened, in words. -/
def message : Event → String
  | manifestLoaded .. => "loaded manifest"
  | componentDescribed .. => "described component"
  | componentKnown .. => "descriptor cache hit"
  | netCreated .. => "created net"
  | bound .. => "bound"
  | instanceRegistered .. => "registered instance"
  | rolledBack .. => "instantiation rolled back"
  | netIncomplete _ _ message => message
  | elaborated .. => "elaborated"
  | moduleWritten .. => "wrote module"
  | elaborating _ event => event.message

/-- What it happened to: names with their values, in the order of the log line. -/
def fields : Event → List (String × String)
  | manifestLoaded root project => [("root", root), ("project", project)]
  | componentDescribed component inputs outputs source =>
    [("component", component), ("inputs", toString inputs), ("outputs", toString outputs),
      ("source", source)]
  | componentKnown component source => [("component", component), ("source", source)]
  | netCreated chip net kind => [("chip", chip), ("net", net), ("kind", kind.text)]
  | bound net slot instanceId =>
    [("net", net), ("slot", slot.text), ("instance", instanceId.text)]
  | instanceRegistered chip name component =>
    [("chip", chip), ("instance", name), ("component", component)]
  | rolledBack chip component message =>
    [("chip", chip), ("component", component), ("err", message)]
  | netIncomplete chip net _ => [("chip", chip), ("net", net)]
  | elaborated nets instances bytes =>
    [("nets", toString nets), ("instances", toString instances), ("bytes", toString bytes)]
  | moduleWritten chip path => [("chip", chip), ("path", path)]
  | elaborating _ event => event.fields

/-- The spans within which the event happened, the outermost first. -/
def spans : Event → List LogSpan
  | elaborating chip event => .elaborate chip :: event.spans
  | _ => []

/-- Does the event have a field of the given name? The message counts as one. -/
def hasField (e : Event) (name : String) : Bool :=
  name == "message" || e.fields.any fun field => field.1 == name

/-- The event as a line of a log that shows the given spans. -/
def lineWithin (shown : List LogSpan) (e : Event) : String :=
  let spans := String.join (shown.map fun s => s.text ++ ": ")
  e.level.text ++ " " ++ spans ++ String.intercalate " " (e.message :: e.fields.map fieldText)

end Event

end Netlist
