import Netlist.Proofs.Answers
import Netlist.Proofs.Component.Registration

/-!
# A library kept in two maps

A library looks a component up by going through its entries. One that is to answer quickly keeps two
maps instead: what has been described under the digest of its source, and the same components under
their names. `Library.Maps` is such a library. A call asks the first map; if the source is new, it
is described, the second map tells whether the name is taken, and what is described is entered into
both maps, one right after the other.

The two libraries go in lock-step: they answer every call alike and tell of it alike
(`InStep.describe`), and so they do after any calls, whatever there is to describe the sources
(`inStep_ofCalls`, `maps_answer_alike`). The relation `InStep` compares the maps with the entries,
and everything else is read off this comparison. It does not ask that different sources have
different digests: where two of them had the same, both libraries would take the one for the other.

That the two maps stay in step with each other is the second half of it (`maps_agree`): a component
is in the one exactly if it is in the other, under its own name and once.
-/

namespace Netlist

/-- An entry as a map from digests has it. -/
def LibraryEntry.underSource (e : LibraryEntry) : Digest × Component :=
  (e.source, e.component)

/-- An entry as a map from names has it. -/
def LibraryEntry.underName (e : LibraryEntry) : String × Component :=
  (e.component.name, e.component)

namespace Library

/-- **A library that keeps its components in two maps.** -/
structure Maps where
  /-- What has been described, under the digest of its source; newest first. -/
  bySource : List (Digest × Component)
  /-- The components under their names, in the order of the names. -/
  byName : List (String × Component)

namespace Maps

/-- Nothing has been described. -/
def empty : Maps := ⟨[], []⟩

/-- What a source with the given digest has described. -/
def known? (m : Maps) (source : Digest) : Option Component :=
  m.bySource.lookup source

/-- The component of the given name. -/
def get? (m : Maps) (name : String) : Option Component :=
  m.byName.lookup name

/-- The components, in the order of their names. -/
def components (m : Maps) : List Component :=
  m.byName.map (·.2)

/-- Enters a component under a name, where the name belongs. It takes the place of one that is there
under the same name. -/
def enter (name : String) (c : Component) : List (String × Component) → List (String × Component)
  | [] => [(name, c)]
  | x :: rest =>
    if name < x.1 then (name, c) :: x :: rest
    else if name = x.1 then (name, c) :: rest
    else x :: enter name c rest

/-- What a call has led to. -/
structure Described where
  maps : Maps
  outcome : Except LibraryError Component
  events : List Event

/-- Enters what a new source describes into both maps, unless the second one has its name. -/
def addNew (m : Maps) (source : Digest) (c : Component) : Described :=
  match m.get? c.name with
  | some _ => ⟨m, .error (.duplicate c.name), []⟩
  | none =>
    { maps := ⟨(source, c) :: m.bySource, enter c.name c m.byName⟩
      outcome := .ok c
      events := [.componentDescribed c.name c.inputPorts.length c.outputPorts.length
        source.short] }

/-- **The component that a source describes**, from the first map if it is there. -/
def describe (compile : String → Except DescribeError Component) (m : Maps) (source : String) :
    Described :=
  let digest := Digest.ofSource source
  match m.known? digest with
  | some c => ⟨m, .ok c, [.componentKnown c.name digest.short]⟩
  | none =>
    match compile source with
    | .error e => ⟨m, .error (.describe e), []⟩
    | .ok c => m.addNew digest c

/-- The maps after some calls, the first one on empty maps. -/
def ofCalls (compile : String → Except DescribeError Component) (calls : List String) : Maps :=
  calls.foldl (fun m s => (m.describe compile s).maps) .empty

end Maps

variable {compile : String → Except DescribeError Component} {l : Library} {m : Maps}
  {s : String}

/-! ### The relation -/

/-- **The maps hold what the library has.** The order of the first map does not matter to anybody;
the second one goes through the entries in their order. -/
structure InStep (l : Library) (m : Maps) : Prop where
  bySource : m.bySource.Perm (l.entries.map LibraryEntry.underSource)
  byName : m.byName = l.entries.map LibraryEntry.underName
  /-- No digest comes twice, so that it does not matter where it stands. -/
  digests : (l.entries.map (·.source)).Nodup
  sorted : l.entries.Pairwise fun a b => a.component.name < b.component.name

namespace InStep

theorem empty : InStep .empty .empty where
  bySource := .refl _
  byName := rfl
  digests := List.nodup_nil
  sorted := List.Pairwise.nil

/-- No digest comes twice in the first map. -/
theorem nodup_bySource (h : InStep l m) : (m.bySource.map Prod.fst).Nodup := by
  rw [(h.bySource.map Prod.fst).nodup_iff, List.map_map]
  exact h.digests

/-- **By digest** both find the same. -/
theorem known?_eq (h : InStep l m) (source : Digest) : m.known? source = l.known? source := by
  -- with each digest once, what is found depends only on what is there
  rw [Maps.known?, lookup_eq_of_perm h.bySource h.nodup_bySource, known?]
  exact lookup_map_eq_map_find? ..

/-- **By name** both find the same. -/
theorem get?_eq (h : InStep l m) (name : String) : m.get? name = l.get? name := by
  rw [Maps.get?, h.byName, get?, components, List.find?_map]
  exact lookup_map_eq_map_find? ..

/-- What the first map finds under some digest are the components of the entries. -/
theorem exists_known?_iff (h : InStep l m) (c : Component) :
    (∃ source, m.known? source = some c) ↔ ∃ e ∈ l.entries, e.component = c := by
  simp only [Maps.known?, lookup_eq_some_iff_of_nodup h.nodup_bySource, h.bySource.mem_iff,
    List.mem_map]
  constructor
  · rintro ⟨source, e, he, heq⟩
    exact ⟨e, he, congrArg Prod.snd heq⟩
  · rintro ⟨e, he, rfl⟩
    exact ⟨e.source, e, he, rfl⟩

/-- The second map has the names in their strict order. -/
theorem pairwise_byName (h : InStep l m) : (m.byName.map Prod.fst).Pairwise (· < ·) := by
  rw [h.byName, List.map_map, List.pairwise_map]
  exact h.sorted

/-- So no name comes twice in it, and it finds exactly what has been entered. -/
theorem get?_eq_some_iff (h : InStep l m) (name : String) (c : Component) :
    m.get? name = some c ↔ ∃ e ∈ l.entries, e.underName = (name, c) := by
  have hnames : (m.byName.map Prod.fst).Nodup := h.pairwise_byName.imp fun hlt => ne_of_lt hlt
  rw [Maps.get?, lookup_eq_some_iff_of_nodup hnames, h.byName, List.mem_map]

/-- **In order** both have the same components. -/
theorem components_eq (h : InStep l m) : m.components = l.components := by
  rw [Maps.components, h.byName, List.map_map]
  rfl

end InStep

/-! ### One call -/

/-- Under a name that is new, a component is entered where its entry is put. -/
theorem enter_map_underName {entry : LibraryEntry} {es : List LibraryEntry}
    (hnew : ∀ e ∈ es, e.component.name ≠ entry.component.name) :
    Maps.enter entry.component.name entry.component (es.map LibraryEntry.underName) =
      (insertEntry entry es).map LibraryEntry.underName := by
  -- both go through the entries up to the place of the new one
  induction es with
  | nil => rfl
  | cons e rest ih =>
    have hname : entry.component.name ≠ e.component.name := (hnew e List.mem_cons_self).symm
    rw [List.map_cons, Maps.enter, insertEntry]
    -- the two differ only for a name that is there, and `e` has another
    by_cases hlt : entry.component.name < e.component.name
    · rw [if_pos hlt, if_pos (show entry.component.name < (e.underName).1 from hlt)]
      rfl
    · rw [if_neg hlt, if_neg (show ¬ entry.component.name < (e.underName).1 from hlt),
        if_neg (show entry.component.name ≠ (e.underName).1 from hname),
        ih fun x hx => hnew x (List.mem_cons_of_mem _ hx)]
      rfl

/-- **What is new goes into both maps**, and into the library. -/
theorem InStep.insertEntry (h : InStep l m) {entry : LibraryEntry}
    (hsource : l.known? entry.source = none) (hname : l.get? entry.component.name = none) :
    InStep ⟨Library.insertEntry entry l.entries⟩
      ⟨entry.underSource :: m.bySource,
        Maps.enter entry.component.name entry.component m.byName⟩ := by
  have hperm := perm_insertEntry entry l.entries
  have hnew : ∀ e ∈ l.entries, e.component.name ≠ entry.component.name := by
    intro e he heq
    exact List.find?_eq_none.1 hname e.component (List.mem_map_of_mem he) (beq_iff_eq.2 heq)
  constructor
  · exact (h.bySource.cons _).trans (hperm.map LibraryEntry.underSource).symm
  · show Maps.enter _ _ m.byName = _
    rw [h.byName]
    exact enter_map_underName hnew
  · -- the digests: the new one is not among those of before
    rw [(hperm.map _).nodup_iff, List.map_cons]
    refine List.nodup_cons.2 ⟨fun hmem => ?_, h.digests⟩
    obtain ⟨e, he, heq⟩ := List.mem_map.1 hmem
    -- the digest would be known
    exact List.find?_eq_none.1 (Option.map_eq_none_iff.1 hsource) e he (beq_iff_eq.2 heq)
  · exact pairwise_insertEntry h.sorted hnew

section Call

variable {d : Component}

/-- What the first map has is answered from there. -/
theorem Maps.describe_of_known (h : m.known? (Digest.ofSource s) = some d) :
    m.describe compile s = ⟨m, .ok d, [.componentKnown d.name (Digest.ofSource s).short]⟩ := by
  simp only [Maps.describe, h]

/-- What cannot be described leaves both maps alone. -/
theorem Maps.describe_of_not_known_of_error {e : DescribeError}
    (h : m.known? (Digest.ofSource s) = none) (hs : compile s = .error e) :
    m.describe compile s = ⟨m, .error (.describe e), []⟩ := by
  simp only [Maps.describe, h, hs]

/-- What can be described is to be entered. -/
theorem Maps.describe_of_not_known_of_ok (h : m.known? (Digest.ofSource s) = none)
    (hs : compile s = .ok d) : m.describe compile s = m.addNew (Digest.ofSource s) d := by
  simp only [Maps.describe, h, hs]

end Call

/-- **One call**: both answer it alike, both tell the same about it, and they are in step again. -/
theorem InStep.describe (h : InStep l m) (compile : String → Except DescribeError Component)
    (s : String) :
    (m.describe compile s).outcome = (l.describe compile s).outcome ∧
      (m.describe compile s).events = (l.describe compile s).events ∧
      InStep (l.describe compile s).library (m.describe compile s).maps := by
  cases hknown : l.known? (Digest.ofSource s) with
  | some c =>
    have hmaps : m.known? (Digest.ofSource s) = some c := (h.known?_eq _).trans hknown
    rw [Maps.describe_of_known hmaps, describe_of_known hknown]
    exact ⟨rfl, rfl, h⟩
  | none =>
    have hmaps : m.known? (Digest.ofSource s) = none := (h.known?_eq _).trans hknown
    cases hs : compile s with
    | error e =>
      rw [Maps.describe_of_not_known_of_error hmaps hs, describe_of_not_known_of_error hknown hs]
      exact ⟨rfl, rfl, h⟩
    | ok c =>
      rw [Maps.describe_of_not_known_of_ok hmaps hs, describe_of_not_known_of_ok hknown hs]
      unfold Maps.addNew addNew
      rw [h.get?_eq c.name]
      -- only now are the names asked
      cases hget : l.get? c.name with
      | some other => exact ⟨rfl, rfl, h⟩
      | none => exact ⟨rfl, rfl, h.insertEntry hknown hget⟩

/-! ### All calls -/

/-- The last of some calls is made on the maps that the others have left. -/
theorem Maps.ofCalls_concat (compile : String → Except DescribeError Component)
    (calls : List String) (s : String) :
    ofCalls compile (calls ++ [s]) = ((ofCalls compile calls).describe compile s).maps := by
  simp [ofCalls]

/-- After any calls the maps are in step with the library. -/
theorem inStep_ofCalls (compile : String → Except DescribeError Component) (calls : List String) :
    InStep (ofCalls compile calls) (Maps.ofCalls compile calls) := by
  -- on the last call, which finds both in step
  induction calls using List.reverseRecOn with
  | nil => exact .empty
  | append_singleton calls s ih =>
    rw [ofCalls_concat, Maps.ofCalls_concat]
    exact (ih.describe compile s).2.2

/-- **It makes no difference whether a library keeps one list or two maps.** After any calls, both
find the same by digest and by name, both go through the same components in the same order, and the
next call ends alike and is told of alike, whatever there is to describe its source. -/
theorem maps_answer_alike (compile : String → Except DescribeError Component)
    (calls : List String) :
    (∀ source, (Maps.ofCalls compile calls).known? source =
        (ofCalls compile calls).known? source) ∧
      (∀ name, (Maps.ofCalls compile calls).get? name = (ofCalls compile calls).get? name) ∧
      (Maps.ofCalls compile calls).components = (ofCalls compile calls).components ∧
      ∀ compile' s,
        ((Maps.ofCalls compile calls).describe compile' s).outcome =
            ((ofCalls compile calls).describe compile' s).outcome ∧
          ((Maps.ofCalls compile calls).describe compile' s).events =
            ((ofCalls compile calls).describe compile' s).events := by
  have h := inStep_ofCalls compile calls
  refine ⟨h.known?_eq, h.get?_eq, h.components_eq, fun compile' s => ?_⟩
  obtain ⟨houtcome, hevents, -⟩ := h.describe compile' s
  exact ⟨houtcome, hevents⟩

/-- **The two maps stay in step with each other.** After any calls, a component that some digest
finds is found under its name, and the other way round; a name finds nothing but the component of
this name; both maps have as many components; and the second one has its names in their strict
order. -/
theorem maps_agree (compile : String → Except DescribeError Component) (calls : List String) :
    (∀ c, (∃ source, (Maps.ofCalls compile calls).known? source = some c) ↔
        (Maps.ofCalls compile calls).get? c.name = some c) ∧
      (∀ name c, (Maps.ofCalls compile calls).get? name = some c → c.name = name) ∧
      (Maps.ofCalls compile calls).bySource.length =
        (Maps.ofCalls compile calls).byName.length ∧
      ((Maps.ofCalls compile calls).byName.map Prod.fst).Pairwise (· < ·) := by
  have h := inStep_ofCalls compile calls
  refine ⟨fun c => ?_, fun name c hfound => ?_, ?_, h.pairwise_byName⟩
  · -- either way there is an entry with the component
    rw [h.exists_known?_iff, h.get?_eq_some_iff]
    refine exists_congr fun e => and_congr_right fun _ => ?_
    constructor
    · rintro rfl
      rfl
    · exact congrArg Prod.snd
  · obtain ⟨e, -, heq⟩ := (h.get?_eq_some_iff name c).1 hfound
    obtain ⟨rfl, rfl⟩ := Prod.mk.inj heq
    rfl
  · rw [h.bySource.length_eq, h.byName, List.length_map, List.length_map]

end Library

end Netlist
