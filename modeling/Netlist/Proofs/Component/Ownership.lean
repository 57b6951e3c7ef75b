import Netlist.Proofs.Component.Registration

/-!
# The first source takes the name

A library answers a call from what is in it: digests, entries, names in their order. None of this is
needed to tell how a call ends. A name belongs to the first source that describes a component of
that name (`owner?`), and a call fails when its source describes nothing, or a component whose name
belongs to another source (`verdict`). This is `outcome_describe_ofCalls`; and the sources that are
registered are those that own the name of their component (`registered_iff_owns`).

Both rest on one step, `Holds.outcome_describe`: as long as the sources of the library are the
owners, a name is new to the library when no source has asked for it so far, because the first one
that asks is registered.

Sources are `Harmonious` when each of them owns the name of its component. This does not depend on
their order (`Harmonious.of_mem_iff`), and it leaves no choice for the library
(`Harmonious.ofCalls_eq`): the entries stand in the order of their names, one for each source.
-/

namespace Netlist.Library

/-- Does the source describe a component of the given name? -/
def describesName (compile : String → Except DescribeError Component) (name s : String) : Bool :=
  match compile s with
  | .ok d => d.name == name
  | .error _ => false

/-- **The owner of a name**: the first source that describes a component of that name. -/
def owner? (compile : String → Except DescribeError Component) (calls : List String)
    (name : String) : Option String :=
  calls.find? (describesName compile name)

/-- The source describes a component and owns its name. -/
def Owns (compile : String → Except DescribeError Component) (calls : List String) (s : String) :
    Prop :=
  ∃ d, compile s = .ok d ∧ owner? compile calls d.name = some s

/-- **How a call ends** after other calls: with the component that the source describes, unless it
describes none or the name of the component has another owner. -/
def verdict (compile : String → Except DescribeError Component) (calls : List String)
    (s : String) : Except LibraryError Component :=
  match compile s with
  | .error e => .error (.describe e)
  | .ok d =>
    match owner? compile calls d.name with
    | none => .ok d
    | some t => if t = s then .ok d else .error (.duplicate d.name)

/-- **Every source owns the name of its component**: none is rejected, and no two of them describe
components of one name. -/
def Harmonious (compile : String → Except DescribeError Component) (calls : List String) : Prop :=
  ∀ s ∈ calls, Owns compile calls s

variable {compile : String → Except DescribeError Component} {calls sources : List String}
  {s t name : String} {d : Component} {l : Library}

theorem describesName_iff :
    describesName compile name s = true ↔ ∃ d, compile s = .ok d ∧ d.name = name := by
  unfold describesName
  cases compile s with
  | error e => simp
  | ok d => simp

theorem mem_of_owner? (h : owner? compile calls name = some s) : s ∈ calls :=
  List.mem_of_find?_eq_some h

/-- The owner of a name describes a component of that name. -/
theorem describes_of_owner? (h : owner? compile calls name = some s) :
    ∃ d, compile s = .ok d ∧ d.name = name :=
  describesName_iff.1 (List.find?_some h :)

/-- The owner of a name owns the name of what it describes. -/
theorem owns_of_owner? (h : owner? compile calls name = some s) : Owns compile calls s := by
  obtain ⟨d, hd, rfl⟩ := describes_of_owner? h
  exact ⟨d, hd, h⟩

/-- A name has an owner as soon as one of the sources describes a component of that name. -/
theorem isSome_owner?_iff :
    (owner? compile calls name).isSome = true ↔
      ∃ s ∈ calls, ∃ d, compile s = .ok d ∧ d.name = name := by
  rw [owner?, List.find?_isSome]
  exact exists_congr fun s => and_congr_right fun _ => describesName_iff

/-- A name that has an owner keeps it. -/
theorem owner?_append_of_some (h : owner? compile calls name = some s) (others : List String) :
    owner? compile (calls ++ others) name = some s := by
  rw [owner?, List.find?_append, ← owner?, h]
  rfl

/-- A name without an owner goes to the next source that asks for it. -/
theorem owner?_concat_of_none (h : owner? compile calls name = none)
    (hs : describesName compile name s = true) :
    owner? compile (calls ++ [s]) name = some s := by
  rw [owner?, List.find?_append, ← owner?, h, List.find?_cons_of_pos hs]
  rfl

/-! ### How a call ends -/

section Verdict

theorem verdict_of_error {e : DescribeError} (hs : compile s = .error e) :
    verdict compile calls s = .error (.describe e) := by
  simp only [verdict, hs]

/-- If the name has no owner, the call succeeds. -/
theorem verdict_of_owner?_eq_none (hs : compile s = .ok d)
    (h : owner? compile calls d.name = none) : verdict compile calls s = .ok d := by
  simp only [verdict, hs, h]

/-- If the name has an owner, the call succeeds for no other source. -/
theorem verdict_of_owner?_eq_some (hs : compile s = .ok d)
    (h : owner? compile calls d.name = some t) :
    verdict compile calls s = if t = s then .ok d else .error (.duplicate d.name) := by
  simp only [verdict, hs, h]

/-- A call succeeds when its source describes a component and no other source owns the name. -/
theorem verdict_eq_ok_iff : verdict compile calls s = .ok d ↔
    compile s = .ok d ∧ ∀ t, owner? compile calls d.name = some t → t = s := by
  cases hs : compile s with
  | error e =>
    rw [verdict_of_error hs]
    exact ⟨(nomatch ·), fun h => nomatch h.1⟩
  | ok d' =>
    rw [Except.ok.injEq]
    cases howner : owner? compile calls d'.name with
    | none =>
      rw [verdict_of_owner?_eq_none hs howner, Except.ok.injEq]
      refine (and_iff_left_of_imp ?_).symm
      rintro rfl t ht
      cases howner.symm.trans ht
    | some t =>
      rw [verdict_of_owner?_eq_some hs howner]
      constructor
      · intro hok
        split at hok
        · next hts =>
          obtain rfl := Except.ok.inj hok
          exact ⟨rfl, fun t' ht' => (Option.some.inj (ht'.symm.trans howner)).trans hts⟩
        · cases hok
      · rintro ⟨rfl, hsame⟩
        rw [if_pos (hsame t howner)]

end Verdict

/-- A call that succeeds leaves its source as the owner of the name. -/
theorem owner?_concat_of_verdict (h : verdict compile calls s = .ok d) :
    owner? compile (calls ++ [s]) d.name = some s := by
  obtain ⟨hd, hsame⟩ := verdict_eq_ok_iff.1 h
  cases howner : owner? compile calls d.name with
  | none => exact owner?_concat_of_none howner (describesName_iff.2 ⟨d, hd, rfl⟩)
  | some t => exact hsame t howner ▸ owner?_append_of_some howner _

/-- Where the sources of a library are those that own the name of their component, a source is among
them if the name of its component is its own. -/
theorem mem_iff_of_owns (howns : ∀ t, t ∈ sources ↔ Owns compile calls t)
    (hd : compile s = .ok d) : s ∈ sources ↔ owner? compile calls d.name = some s := by
  rw [howns s]
  constructor
  · rintro ⟨d', hd', howner⟩
    rwa [Except.ok.inj (hd.symm.trans hd')]
  · exact fun howner => ⟨d, hd, howner⟩

/-- **A library answers as the owners of the names tell.** -/
theorem Holds.outcome_describe (h : Holds compile sources l)
    (howns : ∀ t, t ∈ sources ↔ Owns compile calls t)
    (hdigest : ∀ t ∈ sources, Digest.ofSource t = Digest.ofSource s → t = s) :
    (l.describe compile s).outcome = verdict compile calls s := by
  cases hd : compile s with
  | error e =>
    -- nothing is described, so `s` is not among the sources
    have hs : s ∉ sources := by
      intro hs
      obtain ⟨d, hd', -⟩ := (howns s).1 hs
      cases hd.symm.trans hd'
    rw [verdict_of_error hd, describe_of_not_known_of_error (h.known?_eq_none hdigest hs) hd]
  | ok d =>
    have hmem := mem_iff_of_owns howns hd
    cases howner : owner? compile calls d.name with
    | none =>
      rw [verdict_of_owner?_eq_none hd howner]
      have hs : s ∉ sources := by
        rw [hmem, howner]
        exact nofun
      refine (h.outcome_describe_eq_ok_iff hdigest hs).2 ⟨hd, fun t ht d' hd' hname => ?_⟩
      -- a source of this name would own it
      have howner' := (mem_iff_of_owns howns hd').1 ht
      rw [hname, howner] at howner'
      cases howner'
    | some t =>
      rw [verdict_of_owner?_eq_some hd howner]
      by_cases hts : t = s
      · subst hts
        obtain ⟨d', hd', hanswer⟩ := h.describe_of_mem hdigest (hmem.2 howner)
        rw [if_pos rfl, hanswer compile, Except.ok.inj (hd.symm.trans hd')]
      · have hs : s ∉ sources := by
          rw [hmem, howner]
          exact fun heq => hts (Option.some.inj heq)
        -- the name is in the library, with what its owner describes
        obtain ⟨d', hd', hname⟩ := describes_of_owner? howner
        have hget : l.get? d.name = some d' :=
          h.get?_eq_some_iff.2 ⟨t, (howns t).2 (owns_of_owner? howner), hd', hname⟩
        rw [if_neg hts, describe_of_not_known_of_ok (h.known?_eq_none hdigest hs) hd]
        simp only [addNew, hget]

/-! ### All calls -/

/-- After a further call, the owners are those of before, and its source if it succeeds. -/
theorem owns_concat_iff : Owns compile (calls ++ [s]) t ↔
    Owns compile calls t ∨ (t = s ∧ ∃ d, verdict compile calls s = .ok d) := by
  constructor
  · rintro ⟨d, hd, howner⟩
    cases hbefore : owner? compile calls d.name with
    | some t' =>
      rw [owner?_append_of_some hbefore] at howner
      obtain rfl := Option.some.inj howner
      exact Or.inl ⟨d, hd, hbefore⟩
    | none =>
      -- nobody has asked for the name before, so it is `s` that has got it
      have hlast : [s].find? (describesName compile d.name) = some t := by
        rw [owner?, List.find?_append, ← owner?, hbefore] at howner
        exact howner
      obtain rfl : t = s := List.mem_singleton.1 (List.mem_of_find?_eq_some hlast)
      exact Or.inr ⟨rfl, d, verdict_of_owner?_eq_none hd hbefore⟩
  · rintro (⟨d, hd, howner⟩ | ⟨rfl, d, hok⟩)
    · exact ⟨d, hd, owner?_append_of_some howner [s]⟩
    · exact ⟨d, (verdict_eq_ok_iff.1 hok).1, owner?_concat_of_verdict hok⟩

/-- Digests tell a source from those that have been registered before it. -/
theorem eq_of_digest (hdigest : Set.InjOn Digest.ofSource {t | t ∈ calls ++ [s]})
    (hsources : ∀ t, t ∈ sources ↔ Registered compile calls t) :
    ∀ t ∈ sources, Digest.ofSource t = Digest.ofSource s → t = s := by
  intro t ht heq
  have hcall : t ∈ calls := ((hsources t).1 ht).mem
  exact hdigest (List.mem_append_left _ hcall) (List.mem_concat_self ..) heq

/-- **Those sources are registered that own the name of their component.** -/
theorem registered_iff_owns (hdigest : Set.InjOn Digest.ofSource {s | s ∈ calls}) (t : String) :
    Registered compile calls t ↔ Owns compile calls t := by
  -- on the last call, which is answered by the library that the others have left
  induction calls using List.reverseRecOn generalizing t with
  | nil => exact ⟨fun h => (nomatch h.mem), fun ⟨_, _, howner⟩ => (nomatch howner)⟩
  | append_singleton calls s ih =>
    have hcalls := hdigest.mono fun t ht => List.mem_append_left [s] ht
    obtain ⟨sources, hholds, hsources⟩ := exists_holds hcalls
    have howns : ∀ t, t ∈ sources ↔ Owns compile calls t :=
      fun t => (hsources t).trans (ih hcalls t)
    rw [registered_concat, hholds.outcome_describe howns (eq_of_digest hdigest hsources),
      owns_concat_iff, ih hcalls t]

/-- **How a call ends** can be told without the library. -/
theorem outcome_describe_ofCalls (hdigest : Set.InjOn Digest.ofSource {t | t ∈ calls ++ [s]}) :
    ((ofCalls compile calls).describe compile s).outcome = verdict compile calls s := by
  have hcalls := hdigest.mono fun t ht => List.mem_append_left [s] ht
  obtain ⟨sources, hholds, hsources⟩ := exists_holds hcalls
  have howns : ∀ t, t ∈ sources ↔ Owns compile calls t :=
    fun t => (hsources t).trans (registered_iff_owns hcalls t)
  exact hholds.outcome_describe howns (eq_of_digest hdigest hsources)

/-- **A name stands for what its owner describes.** -/
theorem get?_ofCalls_eq_some_iff (hdigest : Set.InjOn Digest.ofSource {s | s ∈ calls}) :
    (ofCalls compile calls).get? name = some d ↔
      ∃ s, owner? compile calls name = some s ∧ compile s = .ok d := by
  obtain ⟨sources, hholds, hsources⟩ := exists_holds hdigest
  rw [hholds.get?_eq_some_iff]
  constructor
  · rintro ⟨s, hs, hd, rfl⟩
    obtain ⟨d', hd', howner⟩ := (registered_iff_owns hdigest s).1 ((hsources s).1 hs)
    rw [← Except.ok.inj (hd.symm.trans hd')] at howner
    exact ⟨s, howner, hd⟩
  · rintro ⟨s, howner, hd⟩
    have hs := (hsources s).2 ((registered_iff_owns hdigest s).2 (owns_of_owner? howner))
    obtain ⟨d', hd', hname⟩ := describes_of_owner? howner
    exact ⟨s, hs, hd, Except.ok.inj (hd.symm.trans hd') ▸ hname⟩

/-! ### The order of calls -/

/-- **Libraries with the same sources are the same.** -/
theorem Holds.library_eq {l' : Library} {sources' : List String} (h : Holds compile sources l)
    (h' : Holds compile sources' l') (hsame : ∀ s, s ∈ sources ↔ s ∈ sources') : l = l' := by
  have hmem : ∀ {l l' : Library} {sources sources' : List String}, Holds compile sources l →
      Holds compile sources' l' → (∀ s ∈ sources, s ∈ sources') →
        ∀ e ∈ l.entries, e ∈ l'.entries := by
    intro l l' sources sources' h h' hsub e he
    obtain ⟨s, hs, hmakes⟩ := h.exists_source he
    obtain ⟨e', he', hmakes'⟩ := h'.exists_entry (hsub s hs)
    -- the source tells what its entry is
    have hsource : e'.source = e.source := hmakes'.source.trans hmakes.source.symm
    have hcomponent : e'.component = e.component :=
      Except.ok.inj (hmakes'.component.symm.trans hmakes.component)
    have heq : e' = e := congrArg₂ LibraryEntry.mk hsource hcomponent
    exact heq ▸ he'
  have hnodup : ∀ {l : Library} {sources : List String}, Holds compile sources l →
      l.entries.Nodup :=
    fun h => h.sorted.imp fun {a b} hlt (heq : a = b) => lt_irrefl _ (heq ▸ hlt)
  -- both have the same entries, and being in the order of the names puts them into one list
  have hperm : l.entries.Perm l'.entries :=
    (List.perm_ext_iff_of_nodup (hnodup h) (hnodup h')).2 fun e =>
      ⟨hmem h h' (fun s => (hsame s).1) e, hmem h' h (fun s => (hsame s).2) e⟩
  have hentries : l.entries = l'.entries :=
    hperm.eq_of_pairwise (fun _ _ _ _ hlt hlt' => absurd hlt (lt_asymm hlt')) h.sorted h'.sorted
  exact congrArg Library.mk hentries

/-- Of harmonious calls, the sources are those that own a name. -/
theorem Harmonious.owns_iff (h : Harmonious compile calls) :
    Owns compile calls s ↔ s ∈ calls :=
  ⟨fun ⟨_, _, howner⟩ => mem_of_owner? howner, h s⟩

/-- **The same calls in another order**, or repeated, are harmonious as well. -/
theorem Harmonious.of_mem_iff {calls' : List String} (h : Harmonious compile calls)
    (hsame : ∀ s, s ∈ calls' ↔ s ∈ calls) : Harmonious compile calls' := by
  intro s hs
  obtain ⟨d, hd, howner⟩ := h s ((hsame s).1 hs)
  refine ⟨d, hd, ?_⟩
  -- the name has some owner there, and that source owns it here, too
  have hsome : (owner? compile calls' d.name).isSome = true :=
    isSome_owner?_iff.2 ⟨s, hs, d, hd, rfl⟩
  obtain ⟨t, ht⟩ := Option.isSome_iff_exists.1 hsome
  obtain ⟨d', hd', hname⟩ := describes_of_owner? ht
  obtain ⟨d'', hd'', howner'⟩ := h t ((hsame t).1 (mem_of_owner? ht))
  obtain rfl : d' = d'' := Except.ok.inj (hd'.symm.trans hd'')
  rw [hname, howner] at howner'
  rw [ht, howner']

/-- **Harmonious calls make one library**, whatever their order. -/
theorem Harmonious.ofCalls_eq {calls' : List String} (h : Harmonious compile calls)
    (hsame : ∀ s, s ∈ calls' ↔ s ∈ calls) (hdigest : Set.InjOn Digest.ofSource {s | s ∈ calls}) :
    ofCalls compile calls' = ofCalls compile calls := by
  have hdigest' : Set.InjOn Digest.ofSource {s | s ∈ calls'} :=
    hdigest.mono fun s hs => (hsame s).1 hs
  obtain ⟨sources, hholds, hsources⟩ := exists_holds hdigest
  obtain ⟨sources', hholds', hsources'⟩ := exists_holds hdigest'
  refine hholds'.library_eq hholds fun s => ?_
  calc
    s ∈ sources' ↔ Owns compile calls' s :=
      (hsources' s).trans (registered_iff_owns hdigest' s)
    _ ↔ s ∈ calls' := (h.of_mem_iff hsame).owns_iff
    _ ↔ s ∈ calls := hsame s
    _ ↔ Owns compile calls s := h.owns_iff.symm
    _ ↔ s ∈ sources := ((hsources s).trans (registered_iff_owns hdigest s)).symm

end Netlist.Library
