import Netlist.Toml.Value

/-!
# Tables in the making

A table grows while its text is read: keys are set one by one, headers open tables, and dotted keys
make tables on their way. How a table came to be decides who may still add to it, so a draft keeps
that for each table; `Items.toTable` forgets it when the text has been read.
-/

namespace Netlist.Toml

/-- A key with the keys of the tables that lead to it. -/
structure KeyPath where
  parents : List String
  last : String
deriving DecidableEq, Repr

/-- How a table came to be. -/
inductive Origin where
  | header
  | implicit
  | dotted
deriving DecidableEq, Repr

/-- What a key of a draft stands for. -/
inductive Node where
  | value (v : Value)
  | table (origin : Origin) (items : List (String × Node))
  | tables (elements : List (List (String × Node)))

/-- The keys of a table in the making, in the order in which they were set. -/
abbrev Items := List (String × Node)

namespace Items

/-- Is the key set? -/
def has (items : Items) (key : String) : Bool :=
  (items.lookup key).isSome

/-- Changes what a key stands for, in its place. -/
def replace (items : Items) (key : String) (node : Node) : Items :=
  items.map fun x => if x.1 = key then (key, node) else x

/-- The items without a key. -/
def erase (items : Items) (key : String) : Items :=
  items.filter fun x => x.1 ≠ key

/-- The origin of tables that are made on the way to a key. -/
def originOnTheWay (dotted : Bool) : Origin :=
  if dotted then .dotted else .implicit

/-- **Works on the table that a path leads to.** Tables that are missing on the way are made. A
value has no keys, of a list of tables the last one counts, and a dotted key must not reach into a
table with a header of its own. -/
def within {α : Type} (dotted : Bool) (f : Origin → Items → Option (α × Items)) :
    (path : List String) → Origin → Items → Option (α × Items)
  | [], origin, items => f origin items
  | key :: path, _, items =>
    match items.lookup key with
    | none => do
      -- a new table comes after everything that is there
      let origin := originOnTheWay dotted
      let (a, inner) ← within dotted f path origin []
      return (a, items ++ [(key, .table origin inner)])
    | some (.value _) => none
    | some (.table origin inner) =>
      if dotted && origin = .header then none
      else do
        let (a, inner) ← within dotted f path origin inner
        return (a, items.replace key (.table origin inner))
    | some (.tables elements) => do
      -- an element is like a table with a header
      let (a, inner) ← within dotted f path .header (← elements.getLast?)
      return (a, items.replace key (.tables (elements.dropLast ++ [inner])))

/-- Adds a key that is not set yet. -/
def add? (items : Items) (key : String) (node : Node) : Option Items :=
  if items.has key then none else some (items ++ [(key, node)])

/-- **Sets a key.** A dotted key ends in a table that dotted keys have made, and a plain key in one
that they have not. -/
def setKey? (items : Items) (key : KeyPath) (v : Value) : Option Items :=
  (within true (fun origin inner =>
      -- refused are a plain key in a table of dotted keys, and a dotted key in any other
      if (origin = .dotted) = key.parents.isEmpty then none
      else (inner.add? key.last (.value v)).map ((), ·))
    key.parents .header items).map (·.2)

/-- Takes out the table that a header opens: a new one, or one that deeper headers have made
already. -/
def openTable? (items : Items) (key : KeyPath) : Option (Items × Items) :=
  within false (fun _ inner =>
      match inner.lookup key.last with
      | none => some ([], inner)
      -- what deeper headers have put into the table stays in it
      | some (.table .implicit opened) => some (opened, inner.erase key.last)
      | some _ => none)
    key.parents .header items

/-- Puts a table in its place. -/
def closeTable? (items : Items) (key : KeyPath) (inner : Items) : Option Items :=
  (within false (fun _ parent => (parent.add? key.last (.table .header inner)).map ((), ·))
    key.parents .header items).map (·.2)

/-- Makes room for an element of a list of tables. -/
def openElement? (items : Items) (key : KeyPath) : Option Items :=
  (within false (fun _ inner =>
      match inner.lookup key.last with
      | none => some ((), inner ++ [(key.last, .tables [])])
      | some (.tables _) => some ((), inner)
      | some _ => none)
    key.parents .header items).map (·.2)

/-- Puts an element at the end of a list of tables. -/
def closeElement? (items : Items) (key : KeyPath) (element : Items) : Option Items :=
  (within false (fun _ inner =>
      match inner.lookup key.last with
      | none => some ((), inner ++ [(key.last, .tables [element])])
      | some (.tables elements) =>
        some ((), inner.replace key.last (.tables (elements ++ [element])))
      | some _ => none)
    key.parents .header items).map (·.2)

/-- Sets several keys. -/
def setAll? : List (KeyPath × Value) → Items → Option Items
  | [], items => some items
  | (key, v) :: rest, items => (items.setKey? key v).bind (setAll? rest)

end Items

/-! ### Finished tables -/

mutual

/-- The value that a node has become. -/
def Node.toValue : Node → Value
  | .value v => v
  | .table _ items => .table (Items.toTable items)
  | .tables elements => .array (Items.toArray elements)

/-- **The table that items have become.** -/
def Items.toTable : Items → Table
  | [] => []
  | (key, node) :: rest => (key, node.toValue) :: Items.toTable rest

/-- The values that the elements of a list of tables have become. -/
def Items.toArray : List Items → List Value
  | [] => []
  | items :: rest => .table (Items.toTable items) :: Items.toArray rest

end

end Netlist.Toml
