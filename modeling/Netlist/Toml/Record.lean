import Netlist.Decimal.Shortest
import Netlist.Text.Quoted
import Netlist.Toml.Value

/-!
# Records in configuration values

A record is a value with fixed fields. It is written as a table, where each field has a key, or as a
list, where the fields come in their order without keys. What is wrong with a value is told by a
`ShapeError`; of several problems the first in the order of the text counts, and fields that are
missing come last.
-/

namespace Netlist.Toml

/-- Why a value is not what was asked for. -/
inductive ShapeError where
  | missing (field : String)
  | unknown (field : String) (known : List String)
  | mismatch (found expected : String)
  /-- The list ends before the field at the given position. -/
  | tooShort (position : Nat) (record : String) (size : Nat)
deriving DecidableEq, Repr

/-- A name between backquotes. -/
def backquoted (s : String) : String :=
  s!"`{s}`"

/-- How errors name a record. -/
def recordText (name : String) : String :=
  s!"struct {name}"

/-- The error in words. -/
def ShapeError.message : ShapeError → String
  | missing field => s!"missing field `{field}`"
  | unknown field known =>
    s!"unknown field `{field}`, expected one of " ++
      String.intercalate ", " (known.map backquoted)
  | mismatch found expected => s!"invalid type: {found}, expected {expected}"
  | tooShort position record size =>
    s!"invalid length {position}, expected {recordText record} with {size} elements"

namespace Value

/-- What errors say a value is. -/
def found : Value → String
  | string s => "string " ++ Text.quoted s
  | integer n => s!"integer `{n}`"
  | float x => "floating point " ++ backquoted x.text
  | boolean b => s!"boolean `{b}`"
  | array _ => "sequence"
  | table _ => "map"
  | datetime _ => "map"

/-- The key of the one entry of a date or time, where it is taken for a table. -/
def datetimeKey : String := "$__toml_private_datetime"

/-- The entries of a value that can be taken for a table. -/
def entries? : Value → Option Table
  | table entries => some entries
  | datetime d => some [(datetimeKey, .string d.text)]
  | _ => none

/-- The text that a value has to be. -/
def asString : Value → Except ShapeError String
  | string s => .ok s
  | v => .error (.mismatch v.found "a string")

/-- The list that a value has to be. -/
def asListOf {α : Type} (read : Value → Except ShapeError α) : Value → Except ShapeError (List α)
  | array items => items.mapM read
  | v => .error (.mismatch v.found "a sequence")

/-- The list of texts that a value has to be. -/
def asStrings : Value → Except ShapeError (List String) :=
  asListOf asString

/-- The texts by key that a value has to be, in the order of the keys. -/
def asStringMap (v : Value) : Except ShapeError (List (String × String)) :=
  match v.entries? with
  | none => .error (.mismatch v.found "a map")
  | some entries => do
    let texts ← entries.mapM fun e => do return (e.1, ← e.2.asString)
    return texts.mergeSort fun a b => a.1 ≤ b.1

end Value

/-- A record as it is written. -/
structure Record where
  name : String
  fields : List String
  entries : Table
  listed : Bool

namespace Record

/-- The record that a value has to be. Of a list, items beyond the last field do not count. -/
def ofValue (name : String) (fields : List String) (v : Value) : Except ShapeError Record :=
  match v with
  -- a list has no keys: its items belong to the fields in order
  | .array items => .ok ⟨name, fields, fields.zip items, true⟩
  | v =>
    match v.entries? with
    | some entries => .ok ⟨name, fields, entries, false⟩
    | none => .error (.mismatch v.found (recordText name))

/-- A table as a record. -/
def ofTable (name : String) (fields : List String) (entries : Table) : Record :=
  ⟨name, fields, entries, false⟩

/-- The error for a field that is not there. -/
def absent (r : Record) (field : String) : ShapeError :=
  if r.listed then .tooShort (r.fields.idxOf field) r.name r.fields.length else .missing field

/-- The value of a field that has to be there. -/
def required {α : Type} (r : Record) (field : String) (read : Value → Except ShapeError α) :
    Except ShapeError α :=
  match r.entries.lookup field with
  | some v => read v
  | none => .error (r.absent field)

/-- The value of a field that need not be there. -/
def withDefault {α : Type} (r : Record) (field : String) (default : α)
    (read : Value → Except ShapeError α) : Except ShapeError α :=
  match r.entries.lookup field with
  | some v => read v
  | none => .ok default

/-- The value of a field that need not be there, if it is. -/
def optional {α : Type} (r : Record) (field : String) (read : Value → Except ShapeError α) :
    Except ShapeError (Option α) :=
  r.withDefault field none fun v => (read v).map some

end Record

/-! ### The first problem -/

/-- Looks whether a value can be read. -/
abbrev Check := Value → Except ShapeError Unit

/-- Can the value be read by the given reader? -/
def readable {α : Type} (read : Value → Except ShapeError α) : Check :=
  fun v => (read v).map fun _ => ()

/-- The first problem with the entries of a table, in their order. -/
def checkEntries (check : String → Check) : Table → Except ShapeError Unit
  | [] => .ok ()
  | (key, v) :: rest =>
    match check key v with
    | .error e => .error e
    | .ok () => checkEntries check rest

/-- A check for each field; keys that are no fields do not matter. -/
def lenient (checks : List (String × Check)) (key : String) : Check :=
  (checks.lookup key).getD fun _ => .ok ()

/-- A check for each field; there must be no other keys. -/
def strict (checks : List (String × Check)) (key : String) : Check :=
  (checks.lookup key).getD fun _ => .error (.unknown key (checks.map (·.1)))

/-- All entries pass if each of them passes the check for its key. -/
theorem checkEntries_eq_ok_iff {check : String → Check} {t : Table} :
    checkEntries check t = .ok () ↔ ∀ e ∈ t, check e.1 e.2 = .ok () := by
  induction t with
  | nil => simp [checkEntries]
  | cons e rest ih =>
    rw [checkEntries, List.forall_mem_cons, ← ih]
    cases h : check e.1 e.2 with
    | error e => simp
    | ok u => simp

end Netlist.Toml
