import Netlist.Component.Source
import Netlist.Digest.XXH3
import Netlist.Trace

/-!
# Component libraries

A library holds the components described so far, in the order of their names, each with the digest
of its source. The same source is described only once: when it comes again, the library has the
answer. Two sources must not describe components of one name.
-/

namespace Netlist

/-- Why a source could not be added to a library. -/
inductive LibraryError where
  | describe (e : DescribeError)
  | duplicate (name : String)
deriving DecidableEq, Repr

/-- The error in words. -/
def LibraryError.message : LibraryError → String
  | describe e => e.message
  | duplicate name => s!"component `{name}` is defined by more than one source"

/-- A component with the digest of its source. -/
structure LibraryEntry where
  source : Digest
  component : Component
deriving DecidableEq, Repr

/-- The components described so far. -/
structure Library where
  /-- The entries, in the order of the components' names. -/
  entries : List LibraryEntry
deriving DecidableEq, Repr

namespace Library

/-- The library without components. -/
def empty : Library := ⟨[]⟩

instance : Inhabited Library := ⟨empty⟩

/-- The components, in the order of their names. -/
def components (l : Library) : List Component :=
  l.entries.map (·.component)

/-- The names of the components, in order. -/
def names (l : Library) : List String :=
  l.components.map (·.name)

/-- The component of the given name. -/
def get? (l : Library) (name : String) : Option Component :=
  l.components.find? fun c => c.name == name

/-- The component that a source with the given digest has described. -/
def known? (l : Library) (source : Digest) : Option Component :=
  (l.entries.find? fun e => e.source == source).map (·.component)

/-- Puts an entry in its place. -/
def insertEntry (entry : LibraryEntry) : List LibraryEntry → List LibraryEntry
  | [] => [entry]
  | e :: rest =>
    -- names are compared as texts, character by character
    if entry.component.name < e.component.name then entry :: e :: rest
    else e :: insertEntry entry rest

/-- What describing a source has led to. -/
structure Described where
  library : Library
  outcome : Except LibraryError Component
  events : List Event

/-- Adds what a new source describes. -/
def addNew (l : Library) (source : Digest) (c : Component) : Described :=
  match l.get? c.name with
  -- the name is taken by another source, as this one has not been known
  | some _ => ⟨l, .error (.duplicate c.name), []⟩
  | none =>
    { library := ⟨insertEntry ⟨source, c⟩ l.entries⟩
      outcome := .ok c
      events := [.componentDescribed c.name c.inputPorts.length c.outputPorts.length
        source.short] }

/-- **The component that a source describes.** The library is asked first; only a source that it
does not know is handed to `describe`. -/
def describe (describe : String → Except DescribeError Component) (l : Library)
    (source : String) : Described :=
  let digest := Digest.ofSource source
  match l.known? digest with
  -- the same text has been described before
  | some c => ⟨l, .ok c, [.componentKnown c.name digest.short]⟩
  | none =>
    match describe source with
    | .error e => ⟨l, .error (.describe e), []⟩
    | .ok c => l.addNew digest c

/-- Putting an entry in its place adds it and moves nothing else. -/
theorem perm_insertEntry (entry : LibraryEntry) (es : List LibraryEntry) :
    (insertEntry entry es).Perm (entry :: es) := by
  induction es with
  | nil => exact .refl _
  | cons e rest ih =>
    unfold insertEntry
    split
    · exact .refl _
    · exact (ih.cons e).trans (.swap entry e rest)

end Library

end Netlist
