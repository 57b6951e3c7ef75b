import Netlist.Project
import Netlist.Proofs.Component.Ownership

/-!
# Loading components does not depend on the order of the paths

The files that a manifest lists are read one after the other, and each source is handed to the
library that those before it have left. So it may matter which file comes first: of two sources that
describe components of one name, the first is registered and the other is reported.

`fault?` tells what is wrong with a listed file, given the paths in front of it and what the files
hold, and without any library: the file cannot be read, its source describes nothing, or the name of
the component belongs to another source. `foldl_add_eq` says that this is what is reported, path by
path, and `owner?_of_fault?_eq_none` that all other files are registered.

When nothing is reported, every file can be read and the sources are harmonious
(`faults_eq_nil_iff`). That is a property of the set of paths, in whatever order and however often
they are listed, and harmonious sources make one library (`Library.Harmonious.ofCalls_eq`). The two
together are `loadLibrary_law`.
-/

namespace Netlist.Project

open Library (owner? verdict Owns Harmonious ofCalls)

/-! ### What is listed -/

/-- What reading a listed file answers. -/
def contentOf (root : Path) (before : Machine) (path : String) : Except FileError String :=
  before.files.readText before.here (root.join path)

section Faults

variable (read : String → Except FileError String)

/-- The sources in the listed files, without the files that cannot be read. -/
def sourcesIn (paths : List String) : List String :=
  paths.filterMap fun path => (read path).toOption

/-- **What is wrong with a listed file**, if anything is, when the files at `earlier` have been
listed in front of it. -/
def fault? (earlier : List String) (path : String) : Option String :=
  match read path with
  | .error e => some e.message
  | .ok source =>
    match verdict Component.describe (sourcesIn read earlier) source with
    | .ok _ => none
    | .error e => some e.message

/-- The faults of the paths in a list behind `earlier`, in order. -/
def faultsAfter (earlier : List String) : List String → List (String × String)
  | [] => []
  | path :: rest =>
    ((fault? read earlier path).map (path, ·)).toList ++ faultsAfter (earlier ++ [path]) rest

/-- **The paths that are at fault**, in order, each with the reason. -/
def faults (paths : List String) : List (String × String) :=
  faultsAfter read [] paths

end Faults

variable {read : String → Except FileError String} {paths earlier later rest : List String}
  {path source : String}

/-- The sources are what the readable files hold. -/
theorem mem_sourcesIn_iff : source ∈ sourcesIn read paths ↔
    ∃ path ∈ paths, read path = .ok source := by
  rw [sourcesIn, List.mem_filterMap]
  refine exists_congr fun path => and_congr_right fun _ => ?_
  cases read path <;> simp [Except.toOption]

/-- A file that cannot be read adds no source. -/
theorem sourcesIn_concat_of_error {e : FileError} (h : read path = .error e) :
    sourcesIn read (earlier ++ [path]) = sourcesIn read earlier := by
  simp [sourcesIn, h, Except.toOption]

/-- A file that can be read adds its source at the end. -/
theorem sourcesIn_concat_of_ok (h : read path = .ok source) :
    sourcesIn read (earlier ++ [path]) = sourcesIn read earlier ++ [source] := by
  simp [sourcesIn, h, Except.toOption]

theorem sourcesIn_append (paths paths' : List String) :
    sourcesIn read (paths ++ paths') = sourcesIn read paths ++ sourcesIn read paths' :=
  List.filterMap_append

/-- A file is usable when it can be read and its source gets the name it asks for. -/
theorem fault?_eq_none_iff : fault? read earlier path = none ↔ ∃ source d, read path = .ok source ∧
    verdict Component.describe (sourcesIn read earlier) source = .ok d := by
  unfold fault?
  cases hread : read path with
  | error e => simp
  | ok source =>
    cases hverdict : verdict Component.describe (sourcesIn read earlier) source <;>
      simp [hverdict]

/-- There is no fault when every path is usable in its place. -/
theorem faultsAfter_eq_nil_iff : faultsAfter read earlier rest = [] ↔
    ∀ front path later, rest = front ++ path :: later →
      fault? read (earlier ++ front) path = none := by
  -- path by path; each is judged by all that stand in front of it
  induction rest generalizing earlier with
  | nil => simp [faultsAfter]
  | cons p rest ih =>
    rw [faultsAfter, List.append_eq_nil_iff, ih, Option.toList_eq_nil_iff,
      Option.map_eq_none_iff]
    constructor
    · rintro ⟨hfirst, hrest⟩ front path later hsplit
      rcases List.cons_eq_append_iff.1 hsplit with ⟨rfl, hlast⟩ | ⟨front, rfl, hlater⟩
      · obtain ⟨rfl, -⟩ := List.cons.inj hlast
        rwa [List.append_nil]
      · rw [List.append_cons]
        exact hrest front path later hlater
    · intro hall
      refine ⟨?_, fun front path later hsplit => ?_⟩
      · have hfirst := hall [] p rest rfl
        rwa [List.append_nil] at hfirst
      · rw [← List.append_cons]
        exact hall (p :: front) path later (congrArg (List.cons p) hsplit)

/-! ### Loading is reading and describing -/

/-- The machine only answers; what is loaded depends on what the files hold. -/
theorem run_loadFrom (root : Path) (paths : List String) (l : LoadedLibrary) (before : Machine) :
    (loadFrom root paths l).run before =
      (paths.foldl (fun l path => l.add path (contentOf root before path)) l, before) := by
  -- reading changes nothing, so the same machine answers for every path
  induction paths generalizing l with
  | nil => rfl
  | cons path rest ih =>
    rw [loadFrom, Action.run_bind]
    exact ih _

/-- **One file**: its source is described to the library, and a fault becomes a diagnostic. -/
theorem add_eq {l : LoadedLibrary}
    (hl : l.library = ofCalls Component.describe (sourcesIn read earlier))
    (hdigest : Set.InjOn Digest.ofSource {s | s ∈ sourcesIn read (earlier ++ [path])}) :
    (l.add path (read path)).library =
        ofCalls Component.describe (sourcesIn read (earlier ++ [path])) ∧
      (l.add path (read path)).diagnostics = l.diagnostics ++
        ((fault? read earlier path).map (sourceDiagnostic path)).toList := by
  unfold fault?
  cases hread : read path with
  -- a file that cannot be read adds no source
  | error e =>
    rw [sourcesIn_concat_of_error hread]
    exact ⟨hl, rfl⟩
  | ok source =>
    rw [sourcesIn_concat_of_ok hread] at hdigest ⊢
    dsimp only
    rw [Library.ofCalls_concat, ← Library.outcome_describe_ofCalls hdigest, ← hl]
    refine ⟨rfl, ?_⟩
    unfold LoadedLibrary.add
    dsimp only
    cases (l.library.describe Component.describe source).outcome <;> rfl

/-- **All files** from one on, whatever has been loaded before. -/
theorem foldl_add_eq {l : LoadedLibrary}
    (hl : l.library = ofCalls Component.describe (sourcesIn read earlier))
    (hdigest : Set.InjOn Digest.ofSource {s | s ∈ sourcesIn read (earlier ++ rest)}) :
    (rest.foldl (fun l path => l.add path (read path)) l).library =
        ofCalls Component.describe (sourcesIn read (earlier ++ rest)) ∧
      (rest.foldl (fun l path => l.add path (read path)) l).diagnostics = l.diagnostics ++
        (faultsAfter read earlier rest).map fun x => sourceDiagnostic x.1 x.2 := by
  -- file by file; the library is always that of the sources read so far
  induction rest generalizing earlier l with
  | nil =>
    rw [List.append_nil]
    exact ⟨hl, (List.append_nil _).symm⟩
  | cons path rest ih =>
    rw [List.append_cons] at hdigest ⊢
    have hpart : Set.InjOn Digest.ofSource {s | s ∈ sourcesIn read (earlier ++ [path])} := by
      refine hdigest.mono fun s hs => ?_
      rw [Set.mem_ofPred_eq, sourcesIn_append]
      exact List.mem_append_left _ hs
    obtain ⟨hlibrary, hdiagnostics⟩ := add_eq hl hpart
    obtain ⟨hlibrary', hdiagnostics'⟩ := ih hlibrary hdigest
    refine ⟨hlibrary', hdiagnostics'.trans ?_⟩
    rw [hdiagnostics, faultsAfter, List.map_append, List.append_assoc]
    cases fault? read earlier path <;> rfl

/-! ### Who is registered -/

/-- A usable file has a source that owns the name of its component, whatever comes later. -/
theorem owner?_of_fault?_eq_none (h : fault? read earlier path = none) :
    ∃ source d, read path = .ok source ∧ Component.describe source = .ok d ∧
      ∀ later, owner? Component.describe (sourcesIn read (earlier ++ path :: later)) d.name =
        some source := by
  obtain ⟨source, d, hread, hverdict⟩ := fault?_eq_none_iff.1 h
  refine ⟨source, d, hread, (Library.verdict_eq_ok_iff.1 hverdict).1, fun later => ?_⟩
  rw [List.append_cons, sourcesIn_append, sourcesIn_concat_of_ok hread]
  exact Library.owner?_append_of_some (Library.owner?_concat_of_verdict hverdict) _

/-- The owner of a name is the source of a usable file. -/
theorem exists_fault?_eq_none_of_owner? {name : String}
    (h : owner? Component.describe (sourcesIn read paths) name = some source) :
    ∃ earlier path later, paths = earlier ++ path :: later ∧ fault? read earlier path = none ∧
      read path = .ok source := by
  obtain ⟨d, hd, rfl⟩ := Library.describes_of_owner? h
  obtain ⟨-, front, back, hsources, hfirst⟩ := List.find?_eq_some_iff_append.1 h
  -- the paths are split where the sources are
  obtain ⟨before, rest, rfl, hbefore, hrest⟩ := List.filterMap_eq_append_iff.1 hsources
  obtain ⟨unreadable, path, later, rfl, hunreadable, hpath, -⟩ :=
    List.filterMap_eq_cons_iff.1 hrest
  have hread : read path = .ok source := by
    cases hread : read path <;> simp_all [Except.toOption]
  have hearlier : sourcesIn read (before ++ unreadable) = front := by
    rw [sourcesIn_append, sourcesIn, sourcesIn, hbefore, List.filterMap_eq_nil_iff.2 hunreadable,
      List.append_nil]
  have hnone : owner? Component.describe (sourcesIn read (before ++ unreadable)) d.name = none := by
    rw [hearlier]
    exact List.find?_eq_none.2 fun t ht => by simpa using hfirst t ht
  refine ⟨before ++ unreadable, path, later, (List.append_assoc ..).symm, ?_, hread⟩
  exact fault?_eq_none_iff.2 ⟨source, d, hread, Library.verdict_of_owner?_eq_none hd hnone⟩

/-- **Why a listed file is at fault**: it cannot be read, or what it holds is rejected, or a path in
front of it has been registered under the same name with another source. -/
inductive AtFault (read : String → Except FileError String) (earlier : List String)
    (path : String) : Prop where
  | unreadable {e : FileError} (content : read path = .error e) : AtFault read earlier path
  | rejected {source : String} {e : DescribeError} (content : read path = .ok source)
      (describe : Component.describe source = .error e) : AtFault read earlier path
  | taken {source source' : String} {d d' : Component} {front back : List String} {other : String}
      (content : read path = .ok source) (describe : Component.describe source = .ok d)
      (before : earlier = front ++ other :: back) (usable : fault? read front other = none)
      (content' : read other = .ok source') (describe' : Component.describe source' = .ok d')
      (name : d'.name = d.name) (differs : source' ≠ source) : AtFault read earlier path

/-- A listed file is at fault for one of the three reasons, and for no other. -/
theorem isSome_fault?_iff :
    (fault? read earlier path).isSome = true ↔ AtFault read earlier path := by
  constructor
  · intro hfault
    cases hread : read path with
    | error e => exact .unreadable hread
    | ok source =>
      cases hd : Component.describe source with
      | error e => exact .rejected hread hd
      | ok d =>
        -- the name has an owner, and that is another source
        have hverdict : verdict Component.describe (sourcesIn read earlier) source ≠ .ok d := by
          intro hok
          rw [fault?_eq_none_iff.2 ⟨source, d, hread, hok⟩] at hfault
          cases hfault
        rw [Ne, Library.verdict_eq_ok_iff, not_and] at hverdict
        push Not at hverdict
        obtain ⟨source', howner, hne⟩ := hverdict hd
        obtain ⟨front, other, back, hsplit, husable, hread'⟩ :=
          exists_fault?_eq_none_of_owner? howner
        obtain ⟨d', hd', hname⟩ := Library.describes_of_owner? howner
        exact .taken hread hd hsplit husable hread' hd' hname hne
  · intro h
    refine Option.isSome_iff_ne_none.2 fun hnone => ?_
    obtain ⟨source, d, hread, hverdict⟩ := fault?_eq_none_iff.1 hnone
    obtain ⟨hd, hsame⟩ := Library.verdict_eq_ok_iff.1 hverdict
    cases h with
    | unreadable content => cases content.symm.trans hread
    | rejected content describe =>
      obtain rfl := Except.ok.inj (content.symm.trans hread)
      cases describe.symm.trans hd
    -- whoever has the name keeps it, so the file is refused
    | taken content describe before usable content' describe' name differs =>
      obtain rfl := Except.ok.inj (content.symm.trans hread)
      obtain rfl := Except.ok.inj (describe.symm.trans hd)
      obtain ⟨t, d'', hread', hd'', howner⟩ := owner?_of_fault?_eq_none usable
      obtain rfl := Except.ok.inj (content'.symm.trans hread')
      obtain rfl := Except.ok.inj (describe'.symm.trans hd'')
      subst before
      exact differs (hsame _ (name ▸ howner _))

/-- **Nothing is at fault** when every file can be read and the sources are harmonious. This does
not depend on the order of the paths. -/
theorem faults_eq_nil_iff : faults read paths = [] ↔
    (∀ path ∈ paths, ∃ source, read path = .ok source) ∧
      Harmonious Component.describe (sourcesIn read paths) := by
  rw [faults, faultsAfter_eq_nil_iff]
  constructor
  · intro hall
    -- each path is usable in its place, and so its source owns the name in the end
    have howns : ∀ path ∈ paths, ∃ source, read path = .ok source ∧
        Owns Component.describe (sourcesIn read paths) source := by
      intro path hpath
      obtain ⟨earlier, later, rfl⟩ := List.append_of_mem hpath
      obtain ⟨source, d, hread, hd, howner⟩ :=
        owner?_of_fault?_eq_none (hall earlier path later rfl)
      exact ⟨source, hread, d, hd, howner later⟩
    refine ⟨fun path hpath => (howns path hpath).imp fun _ h => h.1, fun source hsource => ?_⟩
    obtain ⟨path, hpath, hread⟩ := mem_sourcesIn_iff.1 hsource
    obtain ⟨source', hread', howns⟩ := howns path hpath
    rwa [Except.ok.inj (hread.symm.trans hread')]
  · rintro ⟨hreadable, hharmonious⟩ earlier path later rfl
    obtain ⟨source, hread⟩ := hreadable path (List.mem_append_right _ List.mem_cons_self)
    obtain ⟨d, hd, howner⟩ := hharmonious source
      (mem_sourcesIn_iff.2 ⟨path, List.mem_append_right _ List.mem_cons_self, hread⟩)
    refine fault?_eq_none_iff.2 ⟨source, d, hread, Library.verdict_eq_ok_iff.2 ⟨hd, ?_⟩⟩
    intro t ht
    -- whoever owns the name by then owns it in the end
    rw [List.nil_append] at ht
    rw [sourcesIn_append, Library.owner?_append_of_some ht] at howner
    exact Option.some.inj howner

theorem mem_sourcesIn_of_mem_iff {paths' : List String}
    (hsame : ∀ path, path ∈ paths' ↔ path ∈ paths) (s : String) :
    s ∈ sourcesIn read paths' ↔ s ∈ sourcesIn read paths := by
  rw [mem_sourcesIn_iff, mem_sourcesIn_iff]
  exact exists_congr fun path => and_congr_left' (hsame path)

/-- **The same paths in another order**, or listed more often, are not at fault either. -/
theorem faults_eq_nil_of_mem_iff {paths' : List String} (h : faults read paths = [])
    (hsame : ∀ path, path ∈ paths' ↔ path ∈ paths) : faults read paths' = [] := by
  rw [faults_eq_nil_iff] at h ⊢
  exact ⟨fun path hpath => h.1 path ((hsame path).1 hpath),
    h.2.of_mem_iff (mem_sourcesIn_of_mem_iff hsame)⟩

/-! ### The law -/

/-- **What has become of the listed files.** -/
structure FirstCome (root : Path) (before : Machine) (paths : List String) (l : LoadedLibrary) :
    Prop where
  /-- A path is at fault for one of three reasons. -/
  atFault_iff : ∀ earlier path, (fault? (contentOf root before) earlier path).isSome = true ↔
    AtFault (contentOf root before) earlier path
  /-- The files at fault are reported, in the order of the list, each with its reason. -/
  diagnostics : l.diagnostics =
    (faults (contentOf root before) paths).map fun x => sourceDiagnostic x.1 x.2
  reported : l.diagnostics.map (fun d => (d.severity, d.code.text, d.subject)) =
    (faults (contentOf root before) paths).map fun x => (.error, "E310", some x.1)
  /-- All other files are registered. -/
  registered : ∀ earlier path later, paths = earlier ++ path :: later →
    fault? (contentOf root before) earlier path = none →
      ∃ source d, contentOf root before path = .ok source ∧
        Component.describe source = .ok d ∧ l.library.get? d.name = some d
  /-- Nothing else is registered. -/
  only : ∀ name d, l.library.get? name = some d → ∃ earlier path later source,
    paths = earlier ++ path :: later ∧ fault? (contentOf root before) earlier path = none ∧
      contentOf root before path = .ok source ∧ Component.describe source = .ok d ∧ d.name = name

/-- What is loaded from a list of paths, in terms of what the files hold. -/
theorem run_loadFrom_empty (root : Path) (before : Machine) {paths : List String}
    (hdigest : Set.InjOn Digest.ofSource {s | s ∈ sourcesIn (contentOf root before) paths}) :
    ((loadFrom root paths .empty).run before).1.library =
        ofCalls Component.describe (sourcesIn (contentOf root before) paths) ∧
      ((loadFrom root paths .empty).run before).1.diagnostics =
        (faults (contentOf root before) paths).map fun x => sourceDiagnostic x.1 x.2 := by
  have hstart : LoadedLibrary.empty.library =
      ofCalls Component.describe (sourcesIn (contentOf root before) []) := rfl
  rw [run_loadFrom]
  exact foldl_add_eq hstart hdigest

/-- After loading, the files have become what they should. -/
theorem firstCome_loadFrom (root : Path) (before : Machine) {paths : List String}
    (hdigest : Set.InjOn Digest.ofSource {s | s ∈ sourcesIn (contentOf root before) paths}) :
    FirstCome root before paths ((loadFrom root paths .empty).run before).1 := by
  obtain ⟨hlibrary, hdiagnostics⟩ := run_loadFrom_empty root before hdigest
  refine ⟨fun _ _ => isSome_fault?_iff, hdiagnostics, ?_, ?_, ?_⟩
  · have hcode : DiagnosticCode.text ⟨.error, 310⟩ = "E310" := by decide
    rw [hdiagnostics, List.map_map, ← hcode]
    rfl
  · -- a usable file: its source owns the name, so the name stands for what it describes
    rintro earlier path later rfl hfault
    obtain ⟨source, d, hread, hd, howner⟩ := owner?_of_fault?_eq_none hfault
    refine ⟨source, d, hread, hd, ?_⟩
    rw [hlibrary]
    exact (Library.get?_ofCalls_eq_some_iff hdigest).2 ⟨source, howner later, hd⟩
  · -- what stands under a name is described by the owner, which is the source of a usable file
    intro name d hget
    rw [hlibrary] at hget
    obtain ⟨source, howner, hd⟩ := (Library.get?_ofCalls_eq_some_iff hdigest).1 hget
    obtain ⟨d', hd', hname⟩ := Library.describes_of_owner? howner
    obtain rfl : d = d' := Except.ok.inj (hd.symm.trans hd')
    obtain ⟨earlier, path, later, hsplit, hfault, hread⟩ :=
      exists_fault?_eq_none_of_owner? howner
    exact ⟨earlier, path, later, source, hsplit, hfault, hread, hd, hname⟩

/-- **Loading components does not depend on the order of the paths**, as long as nothing is
reported; and what is reported comes path by path.

Provided that the sources have different digests: the files that cannot be read, those whose source
is rejected, and those that describe a component whose name another source has got before are
reported one by one, and all others are registered. If there is no report, the same paths in any
other order, each listed as often as one likes, lead to the same library and no report either. -/
theorem loadLibrary_law (root : Path) (m : Manifest) (before : Machine)
    (hdigest : Set.InjOn Digest.ofSource
      {s | ∃ path ∈ m.componentPaths, contentOf root before path = .ok s}) :
    FirstCome root before m.componentPaths ((loadLibrary root m).run before).1 ∧
      (((loadLibrary root m).run before).1.diagnostics = [] →
        ∀ m' : Manifest, (∀ path, path ∈ m'.componentPaths ↔ path ∈ m.componentPaths) →
          ((loadLibrary root m').run before).1.diagnostics = [] ∧
            ((loadLibrary root m').run before).1.library =
              ((loadLibrary root m).run before).1.library) := by
  have hsources : Set.InjOn Digest.ofSource
      {s | s ∈ sourcesIn (contentOf root before) m.componentPaths} :=
    hdigest.mono fun s hs => mem_sourcesIn_iff.1 hs
  refine ⟨firstCome_loadFrom root before hsources, fun hclean m' hsame => ?_⟩
  -- the same paths hold the same sources, whatever their order
  have hmem : ∀ s, s ∈ sourcesIn (contentOf root before) m'.componentPaths ↔
      s ∈ sourcesIn (contentOf root before) m.componentPaths := mem_sourcesIn_of_mem_iff hsame
  have hsources' : Set.InjOn Digest.ofSource
      {s | s ∈ sourcesIn (contentOf root before) m'.componentPaths} :=
    hsources.mono fun s hs => (hmem s).1 hs
  obtain ⟨hlibrary, hdiagnostics⟩ := run_loadFrom_empty root before hsources
  obtain ⟨hlibrary', hdiagnostics'⟩ := run_loadFrom_empty root before hsources'
  have hfaults : faults (contentOf root before) m.componentPaths = [] :=
    List.map_eq_nil_iff.1 (hdiagnostics.symm.trans hclean)
  constructor
  · exact hdiagnostics'.trans (List.map_eq_nil_iff.2 (faults_eq_nil_of_mem_iff hfaults hsame))
  · exact hlibrary'.trans
      (((faults_eq_nil_iff.1 hfaults).2.ofCalls_eq hmem hsources).trans hlibrary.symm)

/-- A machine with two components, a copy of one of them, a rival for its name, and a file that
describes nothing. -/
def crowdedMachine : Machine :=
  let files := [("a", "name = \"A\"\ninputs = [\"x\"]\n"), ("b", "name = \"B\"\n"),
    ("copy", "name = \"A\"\ninputs = [\"x\"]\n"), ("rival", "name = \"A\"\n"),
    ("bad", "name = 1\n")]
  .fresh (files.foldl (fun t file => t.putFile [file.1] file.2.toUTF8) .empty) ⟨"/"⟩

/-- Its files and one that is not there. -/
def crowdedPaths : List String :=
  ["a", "rival", "b", "bad", "missing", "copy"]

/-- A manifest that does nothing but list paths. -/
def listing (paths : List String) : Manifest where
  project := ⟨"p", "", ""⟩
  output := Manifest.defaultOutput
  componentPaths := paths
  chip := ⟨[], [], [], []⟩

/-- The two components and the copy can be loaded in any order; the rival comes too late, and is
reported with the file that describes nothing and the one that is not there. -/
theorem loadLibrary_law_crowded :
    Set.InjOn Digest.ofSource
        {s | ∃ path ∈ crowdedPaths, contentOf ⟨"/"⟩ crowdedMachine path = .ok s} ∧
      ((loadLibrary ⟨"/"⟩ (listing ["a", "b", "copy"])).run crowdedMachine).1.diagnostics = [] ∧
      ((loadLibrary ⟨"/"⟩ (listing ["copy", "b", "a", "b"])).run crowdedMachine).1.library =
        ((loadLibrary ⟨"/"⟩ (listing ["a", "b", "copy"])).run crowdedMachine).1.library ∧
      ((loadLibrary ⟨"/"⟩ (listing crowdedPaths)).run crowdedMachine).1.diagnostics.map
          (fun d => (d.severity, d.code.text, d.subject)) =
        [(.error, "E310", some "rival"), (.error, "E310", some "bad"),
          (.error, "E310", some "missing")] := by
  have hall : ∀ s ∈ sourcesIn (contentOf ⟨"/"⟩ crowdedMachine) crowdedPaths,
      ∀ t ∈ sourcesIn (contentOf ⟨"/"⟩ crowdedMachine) crowdedPaths,
        Digest.ofSource s = Digest.ofSource t → s = t := by decide +kernel
  have hdigest : Set.InjOn Digest.ofSource
      {s | ∃ path ∈ crowdedPaths, contentOf ⟨"/"⟩ crowdedMachine path = .ok s} :=
    fun s hs t ht => hall s (mem_sourcesIn_iff.2 hs) t (mem_sourcesIn_iff.2 ht)
  have hsub : ∀ path ∈ ["a", "b", "copy"], path ∈ crowdedPaths := by decide
  obtain ⟨hfaulty, -⟩ := loadLibrary_law ⟨"/"⟩ (listing crowdedPaths) crowdedMachine hdigest
  obtain ⟨hclean, hreordered⟩ := loadLibrary_law ⟨"/"⟩ (listing ["a", "b", "copy"]) crowdedMachine
    (hdigest.mono fun s hs => hs.imp fun path h => ⟨hsub path h.1, h.2⟩)
  have hquiet : ((loadLibrary ⟨"/"⟩ (listing ["a", "b", "copy"])).run
      crowdedMachine).1.diagnostics = [] := hclean.diagnostics.trans (by decide +kernel)
  have hto : ∀ path ∈ ["copy", "b", "a", "b"], path ∈ ["a", "b", "copy"] := by decide
  have hfrom : ∀ path ∈ ["a", "b", "copy"], path ∈ ["copy", "b", "a", "b"] := by decide
  obtain ⟨-, hsame⟩ := hreordered hquiet (listing ["copy", "b", "a", "b"])
    fun path => ⟨hto path, hfrom path⟩
  exact ⟨hdigest, hquiet, hsame, hfaulty.reported.trans (by decide +kernel)⟩

end Netlist.Project
