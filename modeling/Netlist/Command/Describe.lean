import Netlist.Action
import Netlist.Command.Error
import Netlist.CommandLine.Invocation
import Netlist.Digest.XXH3

/-!
# Describing components

What a component source describes, for people or for programs, with the digest of the source.
-/

namespace Netlist.Command

/-- Ports in one line. -/
def portList (ports : List String) : String :=
  match ports with
  | [] => "(none)"
  | _ => String.intercalate ", " ports

/-- A line without a carriage return at its end. -/
def withoutReturn (line : List Char) : List Char :=
  if line.getLast? = some '\r' then line.dropLast else line

/-- Splits a text at every end of a line; nothing comes after the last one. -/
def splitLines : List Char → List (List Char)
  | [] => []
  | c :: rest =>
    if c = '\n' then [] :: splitLines rest
    else match splitLines rest with
      -- the last line, which has no end
      | [] => [[c]]
      | line :: lines => (c :: line) :: lines

/-- The lines of a text. A carriage return before the end of a line belongs to the end. -/
def linesOf (s : String) : List String :=
  let lines := splitLines s.toList
  -- a carriage return at the very end of the text is no end of a line
  if s.toList.getLast? = some '\n' then lines.map fun l => String.ofList (withoutReturn l)
  else lines.dropLast.map (fun l => String.ofList (withoutReturn l)) ++
    (lines.getLast?.map String.ofList).toList

/-- The lines about a component's documentation. -/
def documentationLines (c : Component) : List String :=
  if c.documentation.isEmpty then []
  else "" :: (linesOf c.documentation).map ("  " ++ ·)

/-- The report for people. -/
def describeText (c : Component) (d : Digest) : String :=
  String.join <| List.map (· ++ "\n") <|
    [s!"component {c.name} ({d.short})",
      s!"  inputs:  {portList c.inputPorts}",
      s!"  outputs: {portList c.outputPorts}"] ++ documentationLines c

/-- The report for programs. -/
def describeJson (c : Component) (d : Digest) : Json :=
  .object [("hash", .string d.text), ("descriptor", c.toJson)]

/-- A report on a component. -/
def describeReport (format : ReportFormat) (c : Component) (d : Digest) : String :=
  match format with
  | .text => describeText c d
  | .json => (describeJson c d).render ++ "\n"

/-- **Describes the component in a file.** -/
def describe (path : Path) (format : ReportFormat) : Action Outcome := do
  match ← Action.fileText path with
  | .error e => return .error (.source path e)
  | .ok source =>
    -- no library is asked, so the name can be that of any other component
    match Component.describe source with
    | .error e => return .error (.describe e)
    | .ok c =>
      Action.printOut (describeReport format c (Digest.ofSource source))
      return .ok 0

end Netlist.Command
