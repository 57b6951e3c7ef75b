import Netlist.Toml.Statement

/-!
# Configuration documents

A configuration text as a whole is a table. Keys belong to the table whose header came last, and to
the outermost table before any header. A table goes into its place when the next header, or the end
of the text, is reached.
-/

namespace Netlist.Toml

/-- The table that keys go to. -/
inductive Section where
  | top
  | table (key : KeyPath)
  | element (key : KeyPath)
deriving DecidableEq, Repr

/-- How far a document has been read. -/
structure Draft where
  /-- The outermost table, without the table that keys go to. -/
  root : Items
  here : Section
  current : Items

namespace Draft

/-- The draft of an empty text. -/
def empty : Draft := ⟨[], .top, []⟩

/-- The outermost table, with the current table in its place. -/
def close? (d : Draft) : Option Items :=
  match d.here with
  | .top => some d.current
  | .table key => d.root.closeTable? key d.current
  | .element key => d.root.closeElement? key d.current

/-- Follows one statement. -/
def follow? (d : Draft) : Statement → Option Draft
  | .keyValue key v => do
    return { d with current := ← d.current.setKey? key v }
  -- the current table has to be in its place before the next is looked for
  | .table key => do
    let (opened, root) ← (← d.close?).openTable? key
    return ⟨root, .table key, opened⟩
  | .element key => do
    return ⟨← (← d.close?).openElement? key, .element key, []⟩

/-- Follows statements in order. -/
def followAll? : List Statement → Draft → Option Draft
  | [], d => some d
  | s :: rest, d => (d.follow? s).bind (followAll? rest)

end Draft

/-- A byte order mark at the start of a text does not belong to it. -/
def skipByteOrderMark : List Char → List Char
  | [] => []
  | c :: rest => if c.toNat = 0xFEFF then rest else c :: rest

/-- **The table that a configuration text describes**, if it is one. -/
def parse? (text : String) : Option Table := do
  let statements ← statements? (skipByteOrderMark text.toList)
  let draft ← Draft.followAll? statements .empty
  return (← draft.close?).toTable

end Netlist.Toml
