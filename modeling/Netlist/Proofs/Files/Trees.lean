import Netlist.Proofs.Answers
import Netlist.Proofs.Files.Paths

/-!
# What file operations leave alone

An operation on a file tree is known by what it does at each location. Making directories leaves
every entry where it is and adds directories where there was nothing (`AddsDirectories`), on the way
along the path (`OnTheWay`) and nowhere else. Writing a file changes a single location
(`Replaces`), the one that the path leads to. Walking asks only which directories there are, so a
path that led somewhere before an operation leads to the same place after it
(`KeepsDirectories.walk`).
-/

namespace Netlist

namespace FileTree

variable {t t' t'' : FileTree} {cwd loc : Location} {p : Path}

/-- Taking away the entries of one location does not change what others have. -/
theorem lookup_filter_of_ne {other : Location} (h : other ≠ loc)
    (entries : List (Location × Entry)) :
    (entries.filter fun x => x.1 ≠ loc).lookup other = entries.lookup other := by
  induction entries with
  | nil => rfl
  | cons x rest ih =>
    by_cases hx : x.1 = loc
    · -- an entry that is filtered out is not the one that is looked up
      have hother : (other == x.1) = false := beq_false_of_ne (hx ▸ h)
      rw [List.filter_cons_of_neg (by simpa using hx), List.lookup_cons, hother]
      exact ih
    · rw [List.filter_cons_of_pos (by simpa using hx), List.lookup_cons, List.lookup_cons, ih]

/-- Putting an entry somewhere does not change other locations. -/
theorem get?_put_of_ne {other : Location} {e : Entry} (h : other ≠ loc) :
    (t.put loc e).get? other = t.get? other := by
  have hlookup : (t.put loc e).entries.lookup other = t.entries.lookup other := by
    rw [put, List.lookup_cons, beq_false_of_ne h]
    exact lookup_filter_of_ne h t.entries
  rw [get?, get?, hlookup]

/-- What the file at a location holds, if there is one. -/
def fileAt? (t : FileTree) (loc : Location) : Option ByteArray :=
  match t.get? loc with
  | some (.file content) => some content
  | _ => none

/-! ### New directories -/

/-- **Nothing has changed but for new directories**, which are at locations that satisfy `P`. -/
def AddsDirectories (P : Location → Prop) (t t' : FileTree) : Prop :=
  ∀ loc, t'.get? loc = t.get? loc ∨ (P loc ∧ t.get? loc = none ∧ t'.get? loc = some .directory)

namespace AddsDirectories

variable {P Q : Location → Prop}

theorem refl (t : FileTree) : AddsDirectories P t t :=
  fun _ => Or.inl rfl

/-- New directories after new directories are new directories. -/
theorem trans (h : AddsDirectories P t t') (h' : AddsDirectories P t' t'') :
    AddsDirectories P t t'' := by
  intro loc
  -- what happens at one location is followed through both steps
  rcases h' loc with hsame' | ⟨hP, hnone, hdirectory⟩
  · rcases h loc with hsame | ⟨hP, hnone, hdirectory⟩
    · exact Or.inl (hsame'.trans hsame)
    · exact Or.inr ⟨hP, hnone, hsame'.trans hdirectory⟩
  · rcases h loc with hsame | ⟨-, -, hthere⟩
    · exact Or.inr ⟨hP, hsame ▸ hnone, hdirectory⟩
    · -- what is new cannot have been missing afterwards
      rw [hnone] at hthere
      cases hthere

theorem mono (h : AddsDirectories P t t') (hPQ : ∀ loc, P loc → Q loc) :
    AddsDirectories Q t t' :=
  fun loc => (h loc).imp_right fun hnew => ⟨hPQ loc hnew.1, hnew.2⟩

/-- What was there stays. -/
theorem get?_of_some (h : AddsDirectories P t t') {e : Entry} (he : t.get? loc = some e) :
    t'.get? loc = some e := by
  rcases h loc with hsame | ⟨-, hnone, -⟩
  · exact hsame.trans he
  · rw [hnone] at he
    cases he

/-- No file is added, changed or taken away. -/
theorem fileAt?_eq (h : AddsDirectories P t t') (loc : Location) :
    t'.fileAt? loc = t.fileAt? loc := by
  unfold fileAt?
  rcases h loc with hsame | ⟨-, hnone, hdirectory⟩
  · rw [hsame]
  · rw [hnone, hdirectory]

end AddsDirectories

/-- A directory put where there was nothing is new. -/
theorem addsDirectories_put {P : Location → Prop} (hP : P loc) (hnone : t.get? loc = none) :
    AddsDirectories P t (t.put loc .directory) := by
  intro other
  by_cases hother : other = loc
  · subst hother
    -- there is always something at the root
    have hne : other ≠ [] := by
      rintro rfl
      cases hnone
    exact Or.inr ⟨hP, hnone, get?_put hne⟩
  · exact Or.inl (get?_put_of_ne hother)

/-! ### Walking -/

/-- A walk can be interrupted. -/
theorem walk_append (t : FileTree) (loc : Location) (first rest : List String) :
    t.walk loc (first ++ rest) = t.walk loc first >>= fun upper => t.walk upper rest := by
  -- on the parts that come first, from any place
  induction first generalizing loc with
  | nil => rfl
  | cons part first ih =>
    rw [List.cons_append, walk, walk]
    -- what comes later does not matter for whether the first part can be taken
    cases t.get? loc with
    | none => rfl
    | some e =>
      cases e with
      | file content => rfl
      | directory =>
        dsimp only
        split
        · rfl
        · exact ih _

/-- A step can be taken from a directory, if the name is not too long. -/
theorem walk_cons_eq_ok_iff {part : String} {rest : List String} {upper : Location} :
    t.walk upper (part :: rest) = .ok loc ↔ t.get? upper = some .directory ∧
      part.utf8ByteSize ≤ nameLimit ∧ t.walk (stepTo upper part) rest = .ok loc := by
  rw [walk]
  split
  · next h => exact iff_of_false nofun (h ▸ nofun)
  · next h => exact iff_of_false nofun (h ▸ nofun)
  · next h =>
    rw [h]
    split
    · next hlong => exact iff_of_false nofun fun hwalk => Nat.not_lt_of_le hwalk.2.1 hlong
    · next hshort =>
      exact ⟨fun hwalk => ⟨rfl, Nat.le_of_not_lt hshort, hwalk⟩, fun hwalk => hwalk.2.2⟩

/-- A walk that arrives has taken the steps that it was asked to take. -/
theorem foldl_of_walk {upper : Location} {parts : List String} (h : t.walk upper parts = .ok loc) :
    loc = parts.foldl stepTo upper := by
  induction parts generalizing upper with
  | nil => exact (Except.ok.inj h).symm
  | cons part rest ih => exact ih (walk_cons_eq_ok_iff.1 h).2.2

/-- Every directory is still there. -/
def KeepsDirectories (t t' : FileTree) : Prop :=
  ∀ loc, t.get? loc = some .directory → t'.get? loc = some .directory

/-- A walk that arrived still arrives at the same place. -/
theorem KeepsDirectories.walk (h : KeepsDirectories t t') {upper : Location} {parts : List String}
    (hwalk : t.walk upper parts = .ok loc) : t'.walk upper parts = .ok loc := by
  induction parts generalizing upper with
  | nil => exact hwalk
  | cons part rest ih =>
    obtain ⟨hdirectory, hshort, hrest⟩ := walk_cons_eq_ok_iff.1 hwalk
    exact walk_cons_eq_ok_iff.2 ⟨h upper hdirectory, hshort, ih hrest⟩

/-- A path leads somewhere if it is in order and the walk along it arrives. -/
theorem locate_eq_ok_iff : t.locate cwd p = .ok loc ↔
    checkPath p = .ok () ∧ t.walk (start cwd p) (fullRoute p) = .ok loc := by
  constructor
  · intro h
    obtain ⟨_, hpath, hwalk⟩ := exists_of_bind_eq_ok h
    exact ⟨hpath, hwalk⟩
  · rintro ⟨hpath, hwalk⟩
    rw [locate, hpath]
    exact hwalk

/-- A path that led somewhere still leads there. -/
theorem KeepsDirectories.locate (h : KeepsDirectories t t') (hloc : t.locate cwd p = .ok loc) :
    t'.locate cwd p = .ok loc := by
  obtain ⟨hpath, hwalk⟩ := locate_eq_ok_iff.1 hloc
  exact locate_eq_ok_iff.2 ⟨hpath, h.walk hwalk⟩

/-- A name in a directory is located below the place where the directory's path leads. -/
theorem locate_join {dir : Path} {file : String} (hfile : Path.IsFileName file)
    (h : t.locate cwd (dir.join file) = .ok loc) :
    ∃ upper, t.walk (start cwd dir) (route dir) = .ok upper ∧ t.get? upper = some .directory ∧
      loc = upper ++ [file] := by
  obtain ⟨-, hwalk⟩ := locate_eq_ok_iff.1 h
  rw [Path.start_join dir hfile, Path.fullRoute_join dir hfile, walk_append] at hwalk
  obtain ⟨upper, hupper, hlast⟩ := exists_of_bind_eq_ok hwalk
  obtain ⟨hdirectory, -, hname⟩ := walk_cons_eq_ok_iff.1 hlast
  refine ⟨upper, hupper, hdirectory, ?_⟩
  rw [← Except.ok.inj hname, stepTo, if_neg hfile.ne_dot, if_neg hfile.ne_dots]

/-! ### Holders -/

/-- **The directory that holds what a path names**, when the path ends with a name. -/
theorem holder_eq_ok {upper : Location} {name : String}
    (h : t.holder cwd p = .ok (upper, some name)) :
    checkPath p = .ok () ∧ t.walk (start cwd p) (route p) = .ok (upper ++ [name]) := by
  obtain ⟨_, hpath, h⟩ := exists_of_bind_eq_ok h
  refine ⟨hpath, ?_⟩
  split at h
  · cases h
  · next last hlast =>
    obtain ⟨upper', hupper, h⟩ := exists_of_bind_eq_ok h
    split at h
    · cases h
    · cases h
    · next hdirectory =>
      split at h
      · cases h
      · next hshort =>
        split at h
        · cases h
        · next hname =>
          obtain ⟨rfl, hsome⟩ := Prod.mk.inj (Except.ok.inj h)
          obtain rfl := Option.some.inj hsome
          rw [Bool.or_eq_true, not_or, decide_eq_true_eq, decide_eq_true_eq] at hname
          -- the walk to the directory goes on into the name, which is not a dot
          rw [← List.dropLast_append_getLast? last hlast, walk_append, hupper]
          refine walk_cons_eq_ok_iff.2 ⟨hdirectory, Nat.le_of_not_lt hshort, ?_⟩
          rw [stepTo, if_neg hname.1, if_neg hname.2]
          rfl

/-! ### Making directories -/

/-- Where a path leads, if each of its parts can be taken. -/
def leadsTo (cwd : Location) (p : Path) : Location :=
  (route p).foldl stepTo (start cwd p)

/-- The location is one that a path passes on its way. -/
def OnTheWay (cwd : Location) (p : Path) (loc : Location) : Prop :=
  ∃ q ∈ p.ancestors, loc = leadsTo cwd q

/-- Making one directory adds it where its path leads. -/
theorem makeDir_eq_ok (h : t.makeDir cwd p = .ok t') :
    AddsDirectories (· = leadsTo cwd p) t t' := by
  obtain ⟨⟨upper, name?⟩, hholder, h⟩ := exists_of_bind_eq_ok h
  cases name? with
  | none => cases h
  | some name =>
    dsimp only at h
    split at h
    · cases h
    · next hnone =>
      obtain rfl := Except.ok.inj h
      exact addsDirectories_put (foldl_of_walk (holder_eq_ok hholder).2) hnone

/-- One directory after the other is made, from the outermost that is missing. -/
theorem makeDirsAlong_addsDirectories (t : FileTree) (cwd : Location) (ps : List Path) :
    AddsDirectories (fun loc => ∃ q ∈ ps, loc = leadsTo cwd q) t (t.makeDirsAlong cwd ps).1 := by
  -- on the paths, the innermost first; those after it are the ones above it
  induction ps with
  | nil => exact .refl t
  | cons p upper ih =>
    have hmade : ∀ {t t' : FileTree}, t.makeDir cwd p = .ok t' →
        AddsDirectories (fun loc => ∃ q ∈ p :: upper, loc = leadsTo cwd q) t t' :=
      fun h => (makeDir_eq_ok h).mono fun loc hloc => ⟨p, List.mem_cons_self, hloc⟩
    have hupper : AddsDirectories (fun loc => ∃ q ∈ p :: upper, loc = leadsTo cwd q) t
        (t.makeDirsAlong cwd upper).1 :=
      ih.mono fun loc ⟨q, hq, hloc⟩ => ⟨q, List.mem_cons_of_mem p hq, hloc⟩
    unfold makeDirsAlong
    split
    · exact .refl t
    · split
      · next h => exact hmade h
      · -- what is above has been made first, and stays
        split
        · next h => rwa [h] at hupper
        · next t₁ h =>
          rw [h] at hupper
          split
          · next h' => exact hupper.trans (hmade h')
          · exact hupper
      · exact .refl t

/-- **Making directories adds directories**, on the way to the one that is asked for. -/
theorem makeDirs_addsDirectories (t : FileTree) (cwd : Location) (p : Path) :
    AddsDirectories (OnTheWay cwd p) t (t.makeDirs cwd p).1 :=
  makeDirsAlong_addsDirectories t cwd p.ancestors

/-- Without going up, the depth grows by the names that are passed. -/
theorem length_foldl_stepTo {parts : List String} (h : ".." ∉ parts) (loc : Location) :
    (parts.foldl stepTo loc).length = loc.length + parts.countP (· ≠ ".") := by
  -- on the parts: a dot stays, and every other part is a name to step into
  induction parts generalizing loc with
  | nil => rfl
  | cons part rest ih =>
    rw [List.mem_cons, not_or] at h
    rw [List.foldl_cons, ih h.2, stepTo]
    by_cases hdot : part = "."
    · rw [if_pos hdot, List.countP_cons_of_neg (by simpa using hdot)]
    · rw [if_neg hdot, if_neg (Ne.symm h.1), List.length_append,
        List.countP_cons_of_pos (by simpa using hdot), List.length_singleton]
      omega

/-- A path that never goes up does not pass anything that is below its end. -/
theorem OnTheWay.length_le (h : OnTheWay cwd p loc) (hup : ".." ∉ route p) :
    loc.length ≤ (leadsTo cwd p).length := by
  obtain ⟨q, hq, rfl⟩ := h
  -- both ways start at the same place, and each part of the one is a part of the other
  obtain ⟨habsolute, hroute⟩ := Path.route_sublist_of_mem_ancestors hq
  have hstart : start cwd q = start cwd p := by rw [start, start, habsolute]
  have hcount : (route q).countP (· ≠ ".") ≤ (route p).countP (· ≠ ".") := hroute.countP_le
  rw [leadsTo, leadsTo, length_foldl_stepTo (fun hmem => hup (hroute.subset hmem)),
    length_foldl_stepTo hup, hstart]
  exact Nat.add_le_add_left hcount _

/-! ### Writing files -/

/-- **A file has been written as a whole**, where there was no directory, and nothing else has
changed. -/
structure Replaces (t : FileTree) (loc : Location) (content : ByteArray) (t' : FileTree) :
    Prop where
  fits : t.get? loc ≠ some .directory
  content : t'.get? loc = some (.file content)
  others : ∀ other, other ≠ loc → t'.get? other = t.get? other

/-- Replacing a file leaves every directory. -/
theorem Replaces.keepsDirectories {content : ByteArray} (h : Replaces t loc content t') :
    KeepsDirectories t t' := by
  intro other hother
  have hne : other ≠ loc := by
    rintro rfl
    exact h.fits hother
  exact (h.others other hne).trans hother

/-- The file is found by its path. -/
theorem Replaces.find {content : ByteArray} (h : Replaces t loc content t')
    (hloc : t.locate cwd p = .ok loc) : t'.find cwd p = .ok (loc, .file content) := by
  unfold FileTree.find
  rw [h.keepsDirectories.locate hloc]
  dsimp only [bind, Except.bind]
  rw [h.content]

/-- Writing a file puts the whole text where the path leads. -/
theorem writeText_eq_ok {text : String} (h : t.writeText cwd p text = .ok t') :
    ∃ loc, t.locate cwd p = .ok loc ∧ Replaces t loc text.toUTF8 t' := by
  obtain ⟨⟨upper, name?⟩, hholder, h⟩ := exists_of_bind_eq_ok h
  cases name? with
  | none => cases h
  | some name =>
    obtain ⟨hpath, hwalk⟩ := holder_eq_ok hholder
    dsimp only at h
    split at h
    · cases h
    · next hslash =>
      -- without a slash at its end, the path goes no further than the name
      have hroute : fullRoute p = route p := by rw [fullRoute, if_neg hslash]
      split at h
      · cases h
      · next hfits =>
        obtain rfl := Except.ok.inj h
        refine ⟨upper ++ [name], locate_eq_ok_iff.2 ⟨hpath, hroute ▸ hwalk⟩, hfits, ?_, ?_⟩
        · exact get?_put (List.append_ne_nil_of_right_ne_nil upper (List.cons_ne_nil name []))
        · exact fun other hne => get?_put_of_ne hne

/-- **Replacing a file** puts the whole text where the path leads. -/
theorem replaceText_eq_ok {text : String} (h : t.replaceText cwd p text = .ok t') :
    ∃ loc, t.locate cwd p = .ok loc ∧ Replaces t loc text.toUTF8 t' := by
  unfold replaceText at h
  split at h
  · cases h
  · exact writeText_eq_ok h

end FileTree

end Netlist
