/-!
# JSON values

The values that reports and stored data are made of. `Json.render` writes a value over several
lines, two spaces per level, with the members of every object in the order of their names;
`Json.asString?`, `Json.asListOf?` and the other readers take a value apart again.
-/

namespace Netlist

/-- A JSON value. -/
inductive Json where
  | null
  | bool (b : Bool)
  /-- The number `mantissa / 10 ^ places`; a number without places is an integer. -/
  | number (mantissa : Int) (places : Nat)
  | string (s : String)
  | array (items : List Json)
  | object (members : List (String × Json))
deriving Repr, Inhabited

namespace Json

/-- A natural number. -/
def nat (n : Nat) : Json := number n 0

/-- A list of texts. -/
def strings (xs : List String) : Json := array (xs.map string)

/-! ### Writing -/

/-- The lower-case hexadecimal digit of a number below sixteen. -/
def hexDigit (n : Nat) : Char :=
  "0123456789abcdef".toList.getD n '0'

/-- How a character stands inside a quoted text: quotes, backslashes and control characters are
escaped, everything else stands for itself. -/
def escapeChar (c : Char) : List Char :=
  if c = '"' then ['\\', '"']
  else if c = '\\' then ['\\', '\\']
  else if c = '\n' then ['\\', 'n']
  else if c = '\r' then ['\\', 'r']
  else if c = '\t' then ['\\', 't']
  else if c = Char.ofNat 8 then ['\\', 'b']
  else if c = Char.ofNat 12 then ['\\', 'f']
  else if c.toNat < 32 then ['\\', 'u', '0', '0', hexDigit (c.toNat / 16), hexDigit (c.toNat % 16)]
  else [c]

/-- A text in quotes. -/
def quote (s : String) : String :=
  String.ofList ('"' :: s.toList.flatMap escapeChar ++ ['"'])

/-- The decimal text of a number. -/
def numberText (mantissa : Int) (places : Nat) : String :=
  if places = 0 then toString mantissa
  else
    let digits := toString mantissa.natAbs
    -- at least one digit stands in front of the point
    let padded := String.ofList (List.replicate (places + 1 - digits.length) '0') ++ digits
    let whole := padded.toList.take (padded.length - places)
    let fraction := padded.toList.drop (padded.length - places)
    (if mantissa < 0 then "-" else "") ++ String.ofList whole ++ "." ++ String.ofList fraction

/-- The start of a line at the given level. -/
def indentation (level : Nat) : String :=
  "\n" ++ String.ofList (List.replicate (2 * level) ' ')

/-- Items between an opening and a closing bracket, one a line; a pair of brackets if there are
none. -/
def bracketed (opening closing : String) (level : Nat) (items : List String) : String :=
  match items with
  | [] => opening ++ closing
  | _ => opening ++ indentation (level + 1) ++
      String.intercalate ("," ++ indentation (level + 1)) items ++ indentation level ++ closing

mutual

/-- The text of a value that starts at the given level. -/
def renderAt (level : Nat) : Json → String
  | null => "null"
  | bool b => if b then "true" else "false"
  | number mantissa places => numberText mantissa places
  | string s => quote s
  | array items => bracketed "[" "]" level (renderItems (level + 1) items)
  | object members =>
    -- the order of the members is not kept: their names decide it
    bracketed "\x7b" "\x7d" level
      (((renderMembers (level + 1) members).mergeSort fun a b => a.1 ≤ b.1).map fun m =>
        quote m.1 ++ ": " ++ m.2)

/-- The texts of the items of an array. -/
def renderItems (level : Nat) : List Json → List String
  | [] => []
  | x :: xs => renderAt level x :: renderItems level xs

/-- The names of the members of an object with the texts of their values. -/
def renderMembers (level : Nat) : List (String × Json) → List (String × String)
  | [] => []
  | (name, x) :: rest => (name, renderAt level x) :: renderMembers level rest

end

/-- **The text of a value**, over several lines. -/
def render (x : Json) : String :=
  renderAt 0 x

/-! ### Reading -/

/-- The text, if the value is one. -/
def asString? : Json → Option String
  | string s => some s
  | _ => none

/-- The natural number below `limit`, if the value is one. -/
def asNatBelow? (limit : Nat) : Json → Option Nat
  | number (.ofNat n) 0 => if n < limit then some n else none
  | _ => none

/-- The items, if the value is a list and each item can be read. -/
def asListOf? {α : Type} (read : Json → Option α) : Json → Option (List α)
  | array items => items.mapM read
  | _ => none

/-- The name of a plain alternative: a text, or an object whose one member is null. -/
def asAlternative? : Json → Option String
  | string s => some s
  | object [(name, null)] => some name
  | _ => none

/-- How one field of a record is read: from the value given for it, and what it is without one. -/
structure Field (α : Type) where
  read : Json → Option α
  /-- The field's value in an object without a member for it. -/
  unnamed : Option α
  /-- The field's value in a list that ends before it. -/
  unlisted : Option α

/-- A field that has to be there. -/
def Field.required {α : Type} (read : Json → Option α) : Field α :=
  ⟨read, none, none⟩

/-- A field that has a default. -/
def Field.withDefault {α : Type} (default : α) (read : Json → Option α) : Field α :=
  ⟨read, some default, some default⟩

/-- A text that may be null, or have no member at all. -/
def Field.optionalString : Field (Option String) where
  read
    | null => some none
    | x => x.asString?.map some
  unnamed := some none
  unlisted := none

/-- The field called `name`, at position `i` when the record is written as a list. A record is an
object, whose other members do not matter, or a list of at most `size` items. -/
def field? {α : Type} (x : Json) (name : String) (size i : Nat) (f : Field α) : Option α :=
  match x with
  | object members => match members.lookup name with
    | some y => f.read y
    | none => f.unnamed
  | array items =>
    -- a list may end early, but it may not go on after the last field
    if size < items.length then none
    else match items[i]? with
      | some y => f.read y
      | none => f.unlisted
  | _ => none

end Json

end Netlist
