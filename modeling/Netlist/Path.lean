/-!
# Paths

A path is a text whose parts are separated by slashes; a path that starts with a slash is absolute.
Paths are joined and cut as texts: nothing is resolved or normalised, except that empty parts and
single dots at the end of a path do not count as parts of their own.
-/

namespace Netlist

/-- The name of a file or directory. -/
@[ext] structure Path where
  text : String
deriving DecidableEq, Repr, Inhabited

namespace Path

/-- Does the path start at the root? -/
def isAbsolute (p : Path) : Bool :=
  p.text.toList.head? == some '/'

/-- Does the path end with a slash? -/
def endsInSlash (p : Path) : Bool :=
  p.text.toList.getLast? == some '/'

/-- **The path `rest`, seen from `base`.** An absolute path stays what it is; otherwise a slash is
put between the two, unless there is one or there is nothing to separate. -/
def join (base : Path) (rest : String) : Path :=
  if (Path.mk rest).isAbsolute || base.text.isEmpty then ⟨rest⟩
  else if base.endsInSlash then ⟨base.text ++ rest⟩
  else ⟨base.text ++ "/" ++ rest⟩

/-- Splits a list of characters at every slash. -/
def splitSlash : List Char → List (List Char)
  | [] => [[]]
  | c :: rest =>
    match splitSlash rest with
    | part :: parts => if c = '/' then [] :: part :: parts else (c :: part) :: parts
    -- this does not happen, as there is always a part
    | [] => [[c]]

/-- What stands between the slashes of a path, after the leading slash of an absolute one. -/
def parts (p : Path) : List String :=
  (splitSlash (if p.isAbsolute then p.text.toList.drop 1 else p.text.toList)).map String.ofList

/-- Drops trailing parts that are empty or a single dot. -/
def trimEnd : List String → List String
  | [] => []
  | part :: rest =>
    match trimEnd rest with
    | [] => if part = "" || part = "." then [] else [part]
    -- something behind it counts, so it stays
    | rest' => part :: rest'

/-- The parts up to the last that counts. A single dot counts at the start of a relative path. -/
def countedParts (p : Path) : List String :=
  match p.parts with
  | [] => []
  | part :: rest =>
    match trimEnd rest with
    | [] => if part = "" || (part = "." && p.isAbsolute) then [] else [part]
    | rest' => part :: rest'

/-- The path with the given parts. -/
def ofParts (absolute : Bool) (parts : List String) : Path :=
  ⟨(if absolute then "/" else "") ++ String.intercalate "/" parts⟩

/-- The path without its last part; the root and the empty path have none. -/
def parent? (p : Path) : Option Path :=
  match p.countedParts with
  | [] => none
  | part :: rest =>
    let upper := (part :: rest).dropLast
    -- what has come to the end now may not count either
    some (ofParts p.isAbsolute (ofParts p.isAbsolute upper).countedParts)

/-- The last part of the path, if it is a name. -/
def fileName? (p : Path) : Option String :=
  match p.countedParts.getLast? with
  | some part => if part = "." || part = ".." then none else some part
  | none => none

/-- The path, its parent, the parent's parent and so on, at most `count` of them. -/
def ancestorsUpTo : Nat → Path → List Path
  | 0, _ => []
  | count + 1, p =>
    match p.parent? with
    -- the root, or the empty path
    | none => [p]
    | some q => p :: ancestorsUpTo count q

/-- **The path and everything above it**, the path itself first. -/
def ancestors (p : Path) : List Path :=
  -- each step takes a part away, so this is enough
  ancestorsUpTo (p.parts.length + 1) p

end Path

end Netlist
