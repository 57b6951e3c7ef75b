import Netlist.Chip.Basic
import Netlist.Toml.Document
import Netlist.Toml.Record

/-!
# Component sources

A component is described by a configuration text with its name, its input and output ports and its
documentation. The name must be an identifier, and no port may be declared twice.
-/

namespace Netlist

/-- How messages show that a text is no configuration text at all. -/
def unparsableText : String := "<toml syntax>"

/-- Why a source does not describe a component. -/
inductive DescribeError where
  | unparsable
  | rejected (reason : String)
deriving DecidableEq, Repr

namespace DescribeError

/-- Why the source was rejected. -/
def reason : DescribeError → String
  | unparsable => unparsableText
  | rejected reason => reason

/-- The error in words. -/
def message (e : DescribeError) : String :=
  s!"cannot describe component: {e.reason}"

end DescribeError

/-- The first item that is equal to an earlier one. -/
def firstRepeat? (seen : List String) : List String → Option String
  | [] => none
  | x :: rest => if seen.contains x then some x else firstRepeat? (x :: seen) rest

/-- No name is reported exactly if none comes twice and none has been seen before. -/
theorem firstRepeat?_eq_none_iff {seen xs : List String} :
    firstRepeat? seen xs = none ↔ xs.Nodup ∧ ∀ x ∈ xs, x ∉ seen := by
  induction xs generalizing seen with
  | nil => simp [firstRepeat?]
  | cons x rest ih =>
    by_cases h : x ∈ seen
    · simp [firstRepeat?, h]
    · simp only [firstRepeat?, List.contains_iff_mem, h, if_false, ih, List.nodup_cons,
        List.mem_cons, not_or]
      refine ⟨fun ⟨hn, hr⟩ => ⟨⟨fun hx => (hr x hx).1 rfl, hn⟩, ?_⟩,
        fun ⟨⟨hx, hn⟩, hr⟩ => ⟨hn, fun y hy => ⟨fun e => hx (e ▸ hy), hr y (.inr hy)⟩⟩⟩
      rintro y (rfl | hy)
      · exact h
      · exact (hr y hy).2

namespace Component

/-- The fields of a component source. -/
def sourceFields : List (String × Toml.Check) :=
  [("name", Toml.readable Toml.Value.asString), ("inputs", Toml.readable Toml.Value.asStrings),
    ("outputs", Toml.readable Toml.Value.asStrings), ("doc", Toml.readable Toml.Value.asString)]

/-- The component that a table spells out. Whether the component makes sense is not checked. -/
def ofTable? (t : Toml.Table) : Except Toml.ShapeError Component := do
  -- a key that is not a field is refused before any field is read
  Toml.checkEntries (Toml.strict sourceFields) t
  let r := Toml.Record.ofTable "ComponentSource" (sourceFields.map (·.1)) t
  return {
    name := ← r.required "name" Toml.Value.asString
    inputPorts := ← r.withDefault "inputs" [] Toml.Value.asStrings
    outputPorts := ← r.withDefault "outputs" [] Toml.Value.asStrings
    documentation := ← r.withDefault "doc" "" Toml.Value.asString }

/-- What is wrong with a component: its name is empty or no identifier, or a port is declared
twice. -/
def problem? (c : Component) : Option String :=
  if c.name.isEmpty then some "component name is empty"
  else match checkIdentifier c.name with
    | .error e => some e.message
    | .ok () => (firstRepeat? [] c.allPorts).map fun port =>
        s!"port `{port}` is declared more than once"

/-- **The component that a table describes.** -/
def describeTable (t : Toml.Table) : Except DescribeError Component :=
  match ofTable? t with
  | .error e => .error (.rejected e.message)
  | .ok c =>
    match c.problem? with
    | some reason => .error (.rejected reason)
    | none => .ok c

/-- **The component that a source describes.** -/
def describe (source : String) : Except DescribeError Component :=
  match Toml.parse? source with
  | none => .error .unparsable
  | some t => describeTable t

end Component

end Netlist
