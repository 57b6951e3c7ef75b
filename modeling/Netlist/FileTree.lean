import Netlist.Path

/-!
# File trees

A file tree says which directories and files there are and what the files hold. Every entry has a
location: the names that lead to it from the root. A path is resolved by walking from a directory
through its parts, where each part but the last has to be a directory. All operations are total;
what cannot be done is reported as a `FileError` with the wording of the operating system.
-/

namespace Netlist

/-- Why a file operation failed. -/
inductive FileError where
  | notFound
  | notDirectory
  | isDirectory
  | alreadyExists
  | nameTooLong
  | nulInName
  | invalidArgument
  | notText
  | other (text : String)
deriving DecidableEq, Repr

/-- The error in words. -/
def FileError.message : FileError → String
  | notFound => "No such file or directory (os error 2)"
  | notDirectory => "Not a directory (os error 20)"
  | isDirectory => "Is a directory (os error 21)"
  | alreadyExists => "File exists (os error 17)"
  | nameTooLong => "File name too long (os error 36)"
  | nulInName => "file name contained an unexpected NUL byte"
  | invalidArgument => "Invalid argument (os error 22)"
  | notText => "stream did not contain valid UTF-8"
  | other text => text

/-- What is at a location. -/
inductive FileKind where
  | file
  | directory
deriving DecidableEq, Repr

/-- The names that lead from the root to an entry. -/
abbrev Location := List String

/-- Something in a file tree. -/
inductive Entry where
  | directory
  | file (content : ByteArray)

instance : DecidableEq Entry
  | .directory, .directory => isTrue rfl
  | .directory, .file _ => isFalse nofun
  | .file _, .directory => isFalse nofun
  | .file a, .file b =>
    decidable_of_iff (a.data = b.data)
      ⟨fun h => congrArg Entry.file (ByteArray.ext h), fun h => by cases h; rfl⟩

/-- The kind of an entry. -/
def Entry.kind : Entry → FileKind
  | directory => .directory
  | file _ => .file

/-- Directories and files by location. The root is always there. -/
structure FileTree where
  /-- The entries below the root. -/
  entries : List (Location × Entry)
deriving DecidableEq

namespace FileTree

/-- The tree with nothing but a root. -/
def empty : FileTree := ⟨[]⟩

instance : Inhabited FileTree := ⟨empty⟩

/-- What is at a location. -/
def get? (t : FileTree) (loc : Location) : Option Entry :=
  if loc = [] then some .directory else t.entries.lookup loc

/-- Puts an entry at a location, in place of what is there. -/
def put (t : FileTree) (loc : Location) (e : Entry) : FileTree :=
  ⟨(loc, e) :: t.entries.filter fun x => x.1 ≠ loc⟩

/-- Puts a directory at a location and at those above it, unless there are some. -/
def putDirectory (t : FileTree) (loc : Location) : FileTree :=
  (List.range (loc.length + 1)).foldl
    (fun t n => if (t.get? (loc.take n)).isSome then t else t.put (loc.take n) .directory) t

/-- Puts a file at a location, with the directories above it. -/
def putFile (t : FileTree) (loc : Location) (content : ByteArray) : FileTree :=
  (t.putDirectory loc.dropLast).put loc (.file content)

/-- What is put somewhere is found there; the root cannot be replaced. -/
theorem get?_put {t : FileTree} {loc : Location} {e : Entry} (h : loc ≠ []) :
    (t.put loc e).get? loc = some e := by
  simp [put, get?, h]

/-! ### Walking -/

/-- The longest name that a directory can hold, in bytes. -/
def nameLimit : Nat := 255

/-- Where a part of a path leads to from a directory. -/
def stepTo (loc : Location) (part : String) : Location :=
  if part = "." then loc
  else if part = ".." then loc.dropLast
  else loc ++ [part]

/-- Where parts of a path lead to. Each is taken from a directory. -/
def walk (t : FileTree) : Location → List String → Except FileError Location
  -- whether there is anything at the end is not asked
  | loc, [] => .ok loc
  | loc, part :: rest =>
    match t.get? loc with
    | none => .error .notFound
    | some (.file _) => .error .notDirectory
    | some .directory =>
      if nameLimit < part.utf8ByteSize then .error .nameTooLong
      else walk t (stepTo loc part) rest

/-- The parts of a path that lead somewhere. -/
def route (p : Path) : List String :=
  p.parts.filter fun part => part ≠ ""

/-- A path's parts for walking; a slash at the end stands for the directory itself. -/
def fullRoute (p : Path) : List String :=
  if p.endsInSlash then route p ++ ["."] else route p

/-- Where walking along a path starts: at the root, or at the working directory. -/
def start (cwd : Location) (p : Path) : Location :=
  if p.isAbsolute then [] else cwd

/-- The longest path that can be followed, in bytes. -/
def pathLimit : Nat := 4095

/-- Does a text hold the character that no name can have? -/
def holdsNul (text : String) : Bool :=
  text.toList.contains (Char.ofNat 0)

/-- Refuses paths that no walk can follow. -/
def checkPath (p : Path) : Except FileError Unit :=
  if holdsNul p.text then .error .nulInName
  else if pathLimit < p.text.utf8ByteSize then .error .nameTooLong
  else if p.text.isEmpty then .error .notFound
  else .ok ()

/-- The location that a path names. There may be nothing at it. -/
def locate (t : FileTree) (cwd : Location) (p : Path) : Except FileError Location := do
  checkPath p
  t.walk (start cwd p) (fullRoute p)

/-- What a path names. -/
def find (t : FileTree) (cwd : Location) (p : Path) : Except FileError (Location × Entry) := do
  let loc ← t.locate cwd p
  -- a walk may end where nothing is
  match t.get? loc with
  | none => .error .notFound
  | some e => .ok (loc, e)

/-- What kind of thing a path names, if it names something. -/
def kindAt? (t : FileTree) (cwd : Location) (p : Path) : Option FileKind :=
  match t.find cwd p with
  | .ok (_, e) => some e.kind
  | .error _ => none

/-! ### Operations -/

/-- The text in the file that a path names. -/
def readText (t : FileTree) (cwd : Location) (p : Path) : Except FileError String := do
  match (← t.find cwd p).2 with
  | .directory => .error .isDirectory
  | .file content =>
    match String.fromUTF8? content with
    | some text => .ok text
    | none => .error .notText

/-- The directory that would hold what a path names, and the name in it. Without a name, the path
names a directory that is there already. -/
def holder (t : FileTree) (cwd : Location) (p : Path) :
    Except FileError (Location × Option String) := do
  checkPath p
  match (route p).getLast? with
  -- no part leads anywhere, so this is the root
  | none => .ok ([], none)
  | some name =>
    let upper ← t.walk (start cwd p) (route p).dropLast
    match t.get? upper with
    | none => .error .notFound
    | some (.file _) => .error .notDirectory
    | some .directory =>
      if nameLimit < name.utf8ByteSize then .error .nameTooLong
      -- it leads to a directory that is there, and no new name
      else if name = "." || name = ".." then .ok (upper, none)
      else .ok (upper, some name)

/-- Makes one directory, in a directory that is there. -/
def makeDir (t : FileTree) (cwd : Location) (p : Path) : Except FileError FileTree := do
  match ← t.holder cwd p with
  | (_, none) => .error .alreadyExists
  | (upper, some name) =>
    match t.get? (upper ++ [name]) with
    | some _ => .error .alreadyExists
    | none => .ok (t.put (upper ++ [name]) .directory)

/-- Is there a directory? -/
def isDirectoryAt (t : FileTree) (cwd : Location) (p : Path) : Bool :=
  t.kindAt? cwd p == some .directory

/-- Makes the first of some directories; when it has nowhere to be, those after it are made first.
Directories made on the way stay, whether or not the first can be made. -/
def makeDirsAlong (t : FileTree) (cwd : Location) : List Path → FileTree × Except FileError Unit
  | [] => (t, .error (.other "failed to create whole tree"))
  | p :: upper =>
    if p.text.isEmpty then (t, .ok ())
    else match t.makeDir cwd p with
      | .ok t' => (t', .ok ())
      -- the directory above is missing
      | .error .notFound =>
        match t.makeDirsAlong cwd upper with
        | (t', .error e) => (t', .error e)
        | (t', .ok ()) =>
          match t'.makeDir cwd p with
          -- now there is a directory to make it in
          | .ok t'' => (t'', .ok ())
          | .error e => (t', if t'.isDirectoryAt cwd p then .ok () else .error e)
      -- a directory that is there already is as good as a new one
      | .error e => (t, if t.isDirectoryAt cwd p then .ok () else .error e)

/-- **Makes a directory and those above it**, as far as they are not there. -/
def makeDirs (t : FileTree) (cwd : Location) (p : Path) : FileTree × Except FileError Unit :=
  t.makeDirsAlong cwd p.ancestors

/-- **Writes a text to a file**, in place of what the file held. The directory has to be there. -/
def writeText (t : FileTree) (cwd : Location) (p : Path) (text : String) :
    Except FileError FileTree := do
  match ← t.holder cwd p with
  | (_, none) => .error .isDirectory
  | (upper, some name) =>
    -- nothing but a directory can be meant
    if p.endsInSlash then .error .isDirectory
    else match t.get? (upper ++ [name]) with
      | some .directory => .error .isDirectory
      | _ => .ok (t.put (upper ++ [name]) (.file text.toUTF8))

/-- **Replaces a file as a whole.** The new file is first made beside the old one, under a name of
its own. A name that cannot be is therefore noticed only by the system, when the new file is to take
it. -/
def replaceText (t : FileTree) (cwd : Location) (p : Path) (text : String) :
    Except FileError FileTree :=
  match t.writeText cwd p text with
  | .error .nulInName =>
    .error (if (route p).dropLast.any holdsNul then .nulInName else .invalidArgument)
  | answer => answer

end FileTree

end Netlist
