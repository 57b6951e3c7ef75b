import Mathlib.Data.List.Forall2
import Mathlib.Data.Set.Card
import Mathlib.Data.String.Basic
import Netlist.Component.Library

/-!
# What a library has been told

A library is made of calls to `describe`. A call for a source may be answered from the library, may
be refused, or may add a component. `Library.ofCalls` is the library after some calls, and a source
is `Registered` by them once a call for it has succeeded. `describe_law` says what the library is at
any time, and how it answers the next call, in terms of the registered sources alone.

The invariant is `Holds`: there is a list of sources that matches the entries one by one, each entry
having the digest of its source and the component that the source describes, and the entries
increase by the names of the components. Both ways to look something up are read off this
correspondence: by digest (`Holds.known?_eq_some_iff`), which needs the digests of different sources
to differ, and by name (`Holds.get?_eq_some_iff`), which does not. An entry is put in its place by
the order of the names and not at the end, so every addition leads to another permutation of the
sources (`Holds.insertEntry`).

That a call is answered without describing the source again is said by what does not matter: the
answer is the same whatever `compile` would make of the source.
-/

namespace Netlist.Library

/-! ### Calls -/

/-- The library after some calls, the first one on an empty library. -/
def ofCalls (compile : String → Except DescribeError Component) (calls : List String) : Library :=
  calls.foldl (fun l s => (l.describe compile s).library) .empty

/-- **A source is registered by some calls** if one of them was for it and has succeeded. -/
def Registered (compile : String → Except DescribeError Component) (calls : List String)
    (s : String) : Prop :=
  ∃ before after d, calls = before ++ s :: after ∧
    ((ofCalls compile before).describe compile s).outcome = .ok d

variable {compile : String → Except DescribeError Component} {l : Library}
  {calls sources : List String} {s : String}

theorem ofCalls_concat : ofCalls compile (calls ++ [s]) =
    ((ofCalls compile calls).describe compile s).library :=
  List.foldl_concat ..

/-- What is registered has been the source of a call. -/
theorem Registered.mem (h : Registered compile calls s) : s ∈ calls := by
  obtain ⟨before, after, -, rfl, -⟩ := h
  exact List.mem_append_right _ List.mem_cons_self

/-- A further call registers its source if it succeeds, and no other. -/
theorem registered_concat {t : String} : Registered compile (calls ++ [s]) t ↔
    Registered compile calls t ∨
      (t = s ∧ ∃ d, ((ofCalls compile calls).describe compile s).outcome = .ok d) := by
  constructor
  · rintro ⟨before, after, d, hcalls, hok⟩
    -- the call that has succeeded is the last one or an earlier one
    rcases List.eq_nil_or_concat after with rfl | ⟨after, x, rfl⟩
    · obtain ⟨rfl, hlast⟩ := List.append_inj' hcalls rfl
      obtain rfl := List.singleton_inj.1 hlast
      exact Or.inr ⟨rfl, d, hok⟩
    · rw [List.concat_eq_append, ← List.cons_append, ← List.append_assoc] at hcalls
      exact Or.inl ⟨before, after, d, (List.append_inj' hcalls rfl).1, hok⟩
  · rintro (⟨before, after, d, rfl, hok⟩ | ⟨rfl, d, hok⟩)
    · refine ⟨before, after ++ [s], d, ?_, hok⟩
      rw [List.append_assoc, List.cons_append]
    · exact ⟨calls, [], d, rfl, hok⟩

/-! ### Entries and their sources -/

/-- The entry is the one for the source. -/
structure Makes (compile : String → Except DescribeError Component) (s : String)
    (e : LibraryEntry) : Prop where
  source : e.source = Digest.ofSource s
  component : compile s = .ok e.component

/-- **The library holds what the sources describe.** The sources are given in the order of the
entries, which is the order of the names. -/
structure Holds (compile : String → Except DescribeError Component) (sources : List String)
    (l : Library) : Prop where
  nodup : sources.Nodup
  entries : List.Forall₂ (Makes compile) sources l.entries
  sorted : l.entries.Pairwise fun a b => a.component.name < b.component.name

theorem holds_empty (compile : String → Except DescribeError Component) :
    Holds compile [] .empty where
  nodup := List.nodup_nil
  entries := .nil
  sorted := List.Pairwise.nil

namespace Holds

/-- Every entry has its source. -/
theorem exists_source (h : Holds compile sources l) {e : LibraryEntry} (he : e ∈ l.entries) :
    ∃ s ∈ sources, Makes compile s e := by
  obtain ⟨k, hk, rfl⟩ := List.mem_iff_getElem.1 he
  have hk' : k < sources.length := h.entries.length_eq ▸ hk
  exact ⟨sources[k], List.getElem_mem hk', h.entries.get hk' hk⟩

/-- Every source has its entry. -/
theorem exists_entry (h : Holds compile sources l) (hs : s ∈ sources) :
    ∃ e ∈ l.entries, Makes compile s e := by
  obtain ⟨k, hk, rfl⟩ := List.mem_iff_getElem.1 hs
  have hk' : k < l.entries.length := h.entries.length_eq ▸ hk
  exact ⟨l.entries[k], List.getElem_mem hk', h.entries.get hk hk'⟩

/-- **By its digest, the library knows a source and what it describes.** -/
theorem known?_eq_some_iff (h : Holds compile sources l)
    (hdigest : ∀ t ∈ sources, Digest.ofSource t = Digest.ofSource s → t = s) {d : Component} :
    l.known? (Digest.ofSource s) = some d ↔ s ∈ sources ∧ compile s = .ok d := by
  -- an entry with the digest of `s` is the entry for `s`
  have hsame : ∀ e ∈ l.entries, e.source = Digest.ofSource s →
      s ∈ sources ∧ compile s = .ok e.component := by
    intro e he hsource
    obtain ⟨t, ht, hmakes⟩ := h.exists_source he
    obtain rfl : t = s := hdigest t ht (hmakes.source.symm.trans hsource)
    exact ⟨ht, hmakes.component⟩
  unfold known?
  constructor
  · intro hknown
    obtain ⟨e, he, rfl⟩ := Option.map_eq_some_iff.1 hknown
    exact hsame e (List.mem_of_find?_eq_some he) (eq_of_beq (List.find?_some he :))
  · rintro ⟨hs, hok⟩
    obtain ⟨e, he, hmakes⟩ := h.exists_entry hs
    -- the search finds some entry, perhaps not `e`, but it describes the same
    have hsome : (l.entries.find? fun e => e.source == Digest.ofSource s).isSome = true :=
      List.find?_isSome.2 ⟨e, he, beq_iff_eq.2 hmakes.source⟩
    obtain ⟨e', he'⟩ := Option.isSome_iff_exists.1 hsome
    obtain ⟨-, hok'⟩ :=
      hsame e' (List.mem_of_find?_eq_some he') (eq_of_beq (List.find?_some he' :))
    rw [he', Option.map_some, Except.ok.inj (hok'.symm.trans hok)]

/-- **By name, the library has what its sources describe.** -/
theorem get?_eq_some_iff (h : Holds compile sources l) {name : String} {d : Component} :
    l.get? name = some d ↔ ∃ s ∈ sources, compile s = .ok d ∧ d.name = name := by
  unfold get?
  constructor
  · intro hfound
    obtain ⟨e, he, rfl⟩ := List.mem_map.1 (List.mem_of_find?_eq_some hfound)
    obtain ⟨s, hs, hmakes⟩ := h.exists_source he
    exact ⟨s, hs, hmakes.component, eq_of_beq (List.find?_some hfound :)⟩
  · rintro ⟨s, hs, hok, rfl⟩
    obtain ⟨e, he, hmakes⟩ := h.exists_entry hs
    obtain rfl : e.component = d := Except.ok.inj (hmakes.component.symm.trans hok)
    have hsome : (l.components.find? fun c => c.name == e.component.name).isSome = true :=
      List.find?_isSome.2 ⟨_, List.mem_map_of_mem he, beq_self_eq_true _⟩
    obtain ⟨d', hd'⟩ := Option.isSome_iff_exists.1 hsome
    -- names increase, so the component that is found is the one of that name
    have hnames : (l.components.map (·.name)).Nodup := by
      refine List.Pairwise.imp (R := (· < ·)) (fun hlt => ne_of_lt hlt) ?_
      rw [components, List.map_map, List.pairwise_map]
      exact h.sorted
    have heq : d' = e.component := List.inj_on_of_nodup_map hnames
      (List.mem_of_find?_eq_some hd') (List.mem_map_of_mem he) (eq_of_beq (List.find?_some hd' :))
    rw [hd', heq]

end Holds

/-! ### Adding an entry -/

/-- An entry whose name is new is put where it belongs. -/
theorem pairwise_insertEntry {entry : LibraryEntry} {es : List LibraryEntry}
    (h : es.Pairwise fun a b => a.component.name < b.component.name)
    (hnew : ∀ e ∈ es, e.component.name ≠ entry.component.name) :
    (insertEntry entry es).Pairwise fun a b => a.component.name < b.component.name := by
  induction es with
  | nil => exact List.pairwise_singleton ..
  | cons e rest ih =>
    obtain ⟨hfirst, hrest⟩ := List.pairwise_cons.1 h
    unfold insertEntry
    split
    · next hlt =>
      -- it goes to the front, and all others come after `e`
      refine List.pairwise_cons.2 ⟨?_, h⟩
      intro x hx
      rcases List.mem_cons.1 hx with rfl | hx
      · exact hlt
      · exact hlt.trans (hfirst x hx)
    · next hnot =>
      have hlt : e.component.name < entry.component.name :=
        lt_of_le_of_ne (not_lt.1 hnot) (hnew e List.mem_cons_self)
      refine List.pairwise_cons.2 ⟨?_, ih hrest fun x hx => hnew x (List.mem_cons_of_mem _ hx)⟩
      intro x hx
      -- the entries behind `e` are those from before and the new one
      rcases List.mem_cons.1 ((perm_insertEntry entry rest).mem_iff.1 hx) with rfl | hx
      · exact hlt
      · exact hfirst x hx

/-- **A new source is added** if it describes a component of a new name. -/
theorem Holds.insertEntry (h : Holds compile sources l) {d : Component} (hs : s ∉ sources)
    (hok : compile s = .ok d) (hname : ∀ c ∈ l.components, c.name ≠ d.name) :
    ∃ sources', sources'.Perm (s :: sources) ∧
      Holds compile sources' ⟨Library.insertEntry ⟨Digest.ofSource s, d⟩ l.entries⟩ := by
  have hentries : List.Forall₂ (flip (Makes compile)) (⟨Digest.ofSource s, d⟩ :: l.entries)
      (s :: sources) := .cons ⟨rfl, hok⟩ h.entries.flip
  -- the sources follow their entries to the places where these have gone
  obtain ⟨sources', hentries', hperm⟩ :=
    List.perm_comp_forall₂ (perm_insertEntry ⟨Digest.ofSource s, d⟩ l.entries) hentries
  -- what is left is that no source comes twice, and that the names still increase
  refine ⟨sources', hperm, ?_, hentries'.flip, ?_⟩
  · exact hperm.nodup_iff.2 (List.nodup_cons.2 ⟨hs, h.nodup⟩)
  · exact pairwise_insertEntry h.sorted fun e he => hname _ (List.mem_map_of_mem he)

/-! ### One call -/

section Call

variable {d : Component}

/-- What the library knows is answered from the library. -/
theorem describe_of_known (h : l.known? (Digest.ofSource s) = some d) :
    l.describe compile s = ⟨l, .ok d, [.componentKnown d.name (Digest.ofSource s).short]⟩ := by
  simp only [describe, h]

/-- What it does not know, and what cannot be described, is an error. -/
theorem describe_of_not_known_of_error {e : DescribeError}
    (h : l.known? (Digest.ofSource s) = none) (hs : compile s = .error e) :
    l.describe compile s = ⟨l, .error (.describe e), []⟩ := by
  simp only [describe, h, hs]

/-- What it does not know, and what can be described, is to be added. -/
theorem describe_of_not_known_of_ok (h : l.known? (Digest.ofSource s) = none)
    (hs : compile s = .ok d) : l.describe compile s = l.addNew (Digest.ofSource s) d := by
  simp only [describe, h, hs]

/-- A component is added if its name is new. -/
theorem outcome_addNew_eq_ok_iff {source : Digest} {c : Component} :
    (l.addNew source c).outcome = .ok d ↔ c = d ∧ l.get? c.name = none := by
  unfold addNew
  cases l.get? c.name with
  | some other => exact ⟨(nomatch ·), fun h => nomatch h.2⟩
  | none => exact ⟨fun h => ⟨Except.ok.inj h, rfl⟩, fun h => congrArg _ h.1⟩

/-- A call that fails leaves the library alone. -/
theorem library_describe_of_error {e : LibraryError}
    (h : (l.describe compile s).outcome = .error e) : (l.describe compile s).library = l := by
  cases hknown : l.known? (Digest.ofSource s) with
  | some c => rw [describe_of_known hknown]
  | none =>
    cases hs : compile s with
    | error e => rw [describe_of_not_known_of_error hknown hs]
    | ok c =>
      rw [describe_of_not_known_of_ok hknown hs] at h ⊢
      -- only a name that is taken is an error here
      cases hname : l.get? c.name with
      | some other => simp only [addNew, hname]
      | none =>
        rw [outcome_addNew_eq_ok_iff.2 ⟨rfl, hname⟩] at h
        cases h

/-- A source that the library does not know succeeds if it describes a component of a new name. -/
theorem outcome_describe_of_not_known (h : l.known? (Digest.ofSource s) = none) :
    (l.describe compile s).outcome = .ok d ↔ compile s = .ok d ∧ l.get? d.name = none := by
  cases hs : compile s with
  | error e =>
    rw [describe_of_not_known_of_error h hs]
    exact ⟨(nomatch ·), fun h => nomatch h.1⟩
  | ok c =>
    rw [describe_of_not_known_of_ok h hs, outcome_addNew_eq_ok_iff, Except.ok.injEq]
    exact and_congr_right fun hc => by rw [hc]

/-- Then it is put among the entries. -/
theorem library_describe_of_not_known (h : l.known? (Digest.ofSource s) = none)
    (hok : (l.describe compile s).outcome = .ok d) :
    (l.describe compile s).library = ⟨insertEntry ⟨Digest.ofSource s, d⟩ l.entries⟩ := by
  obtain ⟨hs, hname⟩ := (outcome_describe_of_not_known h).1 hok
  rw [describe_of_not_known_of_ok h hs]
  simp only [addNew, hname]

end Call

namespace Holds

/-- A source that has not been registered is not known, if its digest is its own. -/
theorem known?_eq_none (h : Holds compile sources l)
    (hdigest : ∀ t ∈ sources, Digest.ofSource t = Digest.ofSource s → t = s) (hs : s ∉ sources) :
    l.known? (Digest.ofSource s) = none := by
  cases hknown : l.known? (Digest.ofSource s) with
  | none => rfl
  | some d => exact absurd ((h.known?_eq_some_iff hdigest).1 hknown).1 hs

/-- A registered source is answered, and the library stays, whoever is there to describe it. -/
theorem describe_of_mem (h : Holds compile sources l)
    (hdigest : ∀ t ∈ sources, Digest.ofSource t = Digest.ofSource s → t = s) (hs : s ∈ sources) :
    ∃ d, compile s = .ok d ∧ ∀ compile', l.describe compile' s =
      ⟨l, .ok d, [.componentKnown d.name (Digest.ofSource s).short]⟩ := by
  obtain ⟨e, -, hmakes⟩ := h.exists_entry hs
  refine ⟨e.component, hmakes.component, fun compile' => ?_⟩
  exact describe_of_known ((h.known?_eq_some_iff hdigest).2 ⟨hs, hmakes.component⟩)

/-- Another source is answered if it describes a component whose name no registered source has
taken. -/
theorem outcome_describe_eq_ok_iff (h : Holds compile sources l)
    (hdigest : ∀ t ∈ sources, Digest.ofSource t = Digest.ofSource s → t = s) (hs : s ∉ sources)
    {d : Component} : (l.describe compile s).outcome = .ok d ↔
      compile s = .ok d ∧ ∀ t ∈ sources, ∀ d', compile t = .ok d' → d'.name ≠ d.name := by
  rw [outcome_describe_of_not_known (h.known?_eq_none hdigest hs)]
  refine and_congr_right fun _ => ?_
  constructor
  · intro hnone t ht d' hd' hname
    rw [h.get?_eq_some_iff.2 ⟨t, ht, hd', hname⟩] at hnone
    cases hnone
  · intro hnew
    cases hget : l.get? d.name with
    | none => rfl
    | some d' =>
      -- the name would be that of a registered source
      obtain ⟨t, ht, hd', hname⟩ := h.get?_eq_some_iff.1 hget
      exact absurd hname (hnew t ht d' hd')

/-- An answer is always what the source describes. -/
theorem compile_of_ok (h : Holds compile sources l)
    (hdigest : ∀ t ∈ sources, Digest.ofSource t = Digest.ofSource s → t = s) {d : Component}
    (hok : (l.describe compile s).outcome = .ok d) : compile s = .ok d := by
  by_cases hs : s ∈ sources
  · obtain ⟨d', hd', hanswer⟩ := h.describe_of_mem hdigest hs
    rw [hanswer compile] at hok
    rw [hd', Except.ok.inj hok]
  · -- a source that is not registered has just been described
    exact ((h.outcome_describe_eq_ok_iff hdigest hs).1 hok).1

/-- **What one call does**: the sources are those of before, and the new one if it succeeds. -/
theorem describe (h : Holds compile sources l)
    (hdigest : ∀ t ∈ sources, Digest.ofSource t = Digest.ofSource s → t = s) :
    ∃ sources', Holds compile sources' (l.describe compile s).library ∧ ∀ t, t ∈ sources' ↔
      t ∈ sources ∨ (t = s ∧ ∃ d, (l.describe compile s).outcome = .ok d) := by
  by_cases hs : s ∈ sources
  · -- the library has the answer
    obtain ⟨d, -, hanswer⟩ := h.describe_of_mem hdigest hs
    rw [hanswer compile]
    refine ⟨sources, h, fun t => ⟨Or.inl, ?_⟩⟩
    rintro (ht | ⟨rfl, -⟩)
    · exact ht
    · exact hs
  · cases houtcome : (l.describe compile s).outcome with
    -- refused, so neither the library nor what is registered changes
    | error e =>
      rw [library_describe_of_error houtcome]
      refine ⟨sources, h, fun t => ⟨Or.inl, ?_⟩⟩
      rintro (ht | ⟨-, d, hd⟩)
      · exact ht
      · cases hd
    | ok d =>
      have hunknown := h.known?_eq_none hdigest hs
      obtain ⟨hd, hname⟩ := (outcome_describe_of_not_known hunknown).1 houtcome
      have hnew : ∀ c ∈ l.components, c.name ≠ d.name := by
        intro c hc heq
        exact List.find?_eq_none.1 hname c hc (beq_iff_eq.2 heq)
      rw [library_describe_of_not_known hunknown houtcome]
      obtain ⟨sources', hperm, hholds⟩ := h.insertEntry hs hd hnew
      refine ⟨sources', hholds, fun t => ?_⟩
      rw [hperm.mem_iff, List.mem_cons, or_comm]
      simp

end Holds

/-! ### All calls -/

/-- **Whatever the calls, there is a list of what they have registered.** -/
theorem exists_holds (hdigest : Set.InjOn Digest.ofSource {s | s ∈ calls}) :
    ∃ sources, Holds compile sources (ofCalls compile calls) ∧
      ∀ t, t ∈ sources ↔ Registered compile calls t := by
  -- the last call is answered by the library that the calls before it have left
  induction calls using List.reverseRecOn with
  | nil => exact ⟨[], holds_empty compile, fun t => ⟨(nomatch ·), fun h => nomatch h.mem⟩⟩
  | append_singleton calls s ih =>
    obtain ⟨sources, hholds, hsources⟩ :=
      ih (hdigest.mono fun t ht => List.mem_append_left _ ht)
    have hsame : ∀ t ∈ sources, Digest.ofSource t = Digest.ofSource s → t = s := by
      intro t ht heq
      have ht' : t ∈ calls := ((hsources t).1 ht).mem
      exact hdigest (List.mem_append_left _ ht') (List.mem_concat_self ..) heq
    obtain ⟨sources', hholds', hsources'⟩ := hholds.describe hsame
    refine ⟨sources', ofCalls_concat ▸ hholds', fun t => ?_⟩
    rw [hsources' t, hsources t, registered_concat]

/-- **The library shows what is registered**, by name and in order. -/
structure Reflects (compile : String → Except DescribeError Component) (calls : List String)
    (l : Library) : Prop where
  /-- A name stands for the component of that name that a registered source describes. -/
  get?_eq_some_iff : ∀ name d, l.get? name = some d ↔
    ∃ s, Registered compile calls s ∧ compile s = .ok d ∧ d.name = name
  /-- The components come in the strict order of their names. -/
  sorted : l.names.Pairwise (· < ·)
  /-- Every registered source has its component among them, once. -/
  enumerates : ∃ sources : List String, sources.Nodup ∧
    (∀ s, s ∈ sources ↔ Registered compile calls s) ∧
    List.Forall₂ (fun s d => compile s = .ok d) sources l.components
  /-- There are as many components as registered sources. -/
  length_eq : l.names.length = {s | Registered compile calls s}.ncard

/-- **How a call for a source is answered** after the calls of before. -/
structure Answers (compile : String → Except DescribeError Component) (before : List String)
    (s : String) : Prop where
  /-- What was answered once is answered again, whatever the source would now describe. -/
  again : ∀ first rest d, before = first ++ s :: rest →
    ((ofCalls compile first).describe compile s).outcome = .ok d →
      ∀ compile', (ofCalls compile before).describe compile' s =
        ⟨ofCalls compile before, .ok d, [.componentKnown d.name (Digest.ofSource s).short]⟩
  /-- A new source succeeds if it describes a component whose name is not taken. -/
  new_iff : ¬ Registered compile before s → ∀ d,
    ((ofCalls compile before).describe compile s).outcome = .ok d ↔ compile s = .ok d ∧
      ∀ t, Registered compile before t → ∀ d', compile t = .ok d' → d'.name ≠ d.name
  /-- A call that fails leaves the library alone. -/
  refused : ∀ e, ((ofCalls compile before).describe compile s).outcome = .error e →
    ((ofCalls compile before).describe compile s).library = ofCalls compile before

/-- A library that holds what the registered sources describe shows what is registered. -/
theorem Holds.reflects (h : Holds compile sources l)
    (hsources : ∀ s, s ∈ sources ↔ Registered compile calls s) : Reflects compile calls l where
  get?_eq_some_iff name d := by
    rw [h.get?_eq_some_iff]
    exact exists_congr fun s => and_congr_left' (hsources s)
  sorted := by
    rw [names, components, List.map_map, List.pairwise_map]
    exact h.sorted
  enumerates := by
    refine ⟨sources, h.nodup, hsources, ?_⟩
    rw [components, List.forall₂_map_right_iff]
    exact h.entries.imp fun s e hmakes => hmakes.component
  length_eq := by
    have hset : {s | Registered compile calls s} = (sources.toFinset : Set String) := by
      ext s
      rw [List.coe_toFinset, Set.mem_ofPred_eq, Set.mem_ofPred_eq, hsources s]
    calc
      l.names.length = l.entries.length := by
        rw [names, components, List.length_map, List.length_map]
      _ = sources.length := h.entries.length_eq.symm
      _ = sources.toFinset.card := (List.toFinset_card_of_nodup h.nodup).symm
      _ = {s | Registered compile calls s}.ncard := by rw [hset, Set.ncard_coe_finset]

/-- The answer of before is the one from the source, and it is there to be given again. -/
theorem answers (hdigest : Set.InjOn Digest.ofSource {t | t ∈ calls ++ [s]}) :
    Answers compile calls s := by
  -- digests tell `s` from the sources of any part of the calls
  have hpart : ∀ part : List String, part ⊆ calls →
      ∃ sources, Holds compile sources (ofCalls compile part) ∧
        (∀ t, t ∈ sources ↔ Registered compile part t) ∧
        ∀ t ∈ sources, Digest.ofSource t = Digest.ofSource s → t = s := by
    intro part hsub
    obtain ⟨sources, hholds, hsources⟩ := exists_holds
      (hdigest.mono fun t (ht : t ∈ part) => List.mem_append_left [s] (hsub ht))
    refine ⟨sources, hholds, hsources, fun t ht heq => ?_⟩
    have ht' : t ∈ calls := hsub ((hsources t).1 ht).mem
    exact hdigest (List.mem_append_left _ ht') (List.mem_concat_self ..) heq
  obtain ⟨sources, hholds, hsources, hsame⟩ := hpart calls (List.Subset.refl _)
  constructor
  · intro first rest d hcalls hok compile'
    have hreg : Registered compile calls s := ⟨first, rest, d, hcalls, hok⟩
    obtain ⟨d', hd', hanswer⟩ := hholds.describe_of_mem hsame ((hsources s).2 hreg)
    -- both answers are what `s` describes
    obtain ⟨_, hfirst, -, hsame'⟩ := hpart first (hcalls ▸ List.subset_append_left _ _)
    have hd : compile s = .ok d := hfirst.compile_of_ok hsame' hok
    obtain rfl : d' = d := Except.ok.inj (hd'.symm.trans hd)
    exact hanswer compile'
  · intro hnew d
    rw [hholds.outcome_describe_eq_ok_iff hsame fun hs => hnew ((hsources s).1 hs)]
    exact and_congr_right fun _ => forall_congr' fun t => imp_congr_left (hsources t)
  · intro e herror
    exact library_describe_of_error herror

/-- **The law of a library.** Provided that the sources of the calls have different digests: at any
time the library shows what the calls so far have registered, and the next call is answered from
there. -/
theorem describe_law (compile : String → Except DescribeError Component)
    (hdigest : Set.InjOn Digest.ofSource {s | s ∈ calls}) :
    (∀ before, before <+: calls → Reflects compile before (ofCalls compile before)) ∧
      ∀ before s, before ++ [s] <+: calls → Answers compile before s := by
  constructor
  · intro before hprefix
    obtain ⟨sources, hholds, hsources⟩ :=
      exists_holds (hdigest.mono fun t (ht : t ∈ before) => hprefix.subset ht)
    exact hholds.reflects hsources
  · intro before s hprefix
    exact answers (hdigest.mono fun t (ht : t ∈ before ++ [s]) => hprefix.subset ht)

/-- A compiler for the next theorem: the first letter of a source is the name of the component. -/
def byLetter (source : String) : Except DescribeError Component :=
  match source.toList with
  | [] => .error .unparsable
  | c :: _ => .ok ⟨String.singleton c, [], [], source⟩

/-- The law at calls of which one cannot be described, one comes too late for its name, and one
comes again. -/
theorem describe_law_byLetter :
    Set.InjOn Digest.ofSource {s | s ∈ ["b1", "", "a1", "b2", "b1"]} ∧
      Reflects byLetter ["b1", "", "a1", "b2", "b1"]
        (ofCalls byLetter ["b1", "", "a1", "b2", "b1"]) ∧
      Answers byLetter ["b1", "", "a1"] "b2" ∧ Answers byLetter ["b1", "", "a1", "b2"] "b1" := by
  have hall : ∀ s ∈ ["b1", "", "a1", "b2", "b1"], ∀ t ∈ ["b1", "", "a1", "b2", "b1"],
      Digest.ofSource s = Digest.ofSource t → s = t := by decide +kernel
  have hdigest : Set.InjOn Digest.ofSource {s | s ∈ ["b1", "", "a1", "b2", "b1"]} :=
    fun s hs t ht => hall s hs t ht
  obtain ⟨hreflects, hanswers⟩ := describe_law byLetter hdigest
  exact ⟨hdigest, hreflects _ (List.prefix_refl _), hanswers _ _ (by decide),
    hanswers _ _ (by decide)⟩

end Netlist.Library
