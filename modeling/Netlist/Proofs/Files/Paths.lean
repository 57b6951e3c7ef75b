import Mathlib.Data.List.Basic
import Netlist.FileTree

/-!
# What paths are made of

Paths are texts, and joining and cutting them are operations on texts. What a path means is read off
its parts: which of them lead into a directory, which lead back, and which do nothing
(`Path.elements`). This module connects the two. The parts of a joined path are those of the
directory with the name after them (`parts_join`), whether the directory is empty, ends in a slash
or is the root itself; and the parts of everything above a path are some of its own parts
(`route_sublist_of_mem_ancestors`).
-/

namespace Netlist

namespace Path

/-! ### Splitting at slashes -/

theorem splitSlash_ne_nil (cs : List Char) : splitSlash cs ≠ [] := by
  cases cs with
  | nil => exact List.cons_ne_nil _ _
  | cons c rest =>
    unfold splitSlash
    split
    · split <;> exact List.cons_ne_nil _ _
    · exact List.cons_ne_nil _ _

/-- A slash starts a new part, and any other character goes to the first part. -/
theorem splitSlash_cons {c : Char} {rest part : List Char} {parts : List (List Char)}
    (h : splitSlash rest = part :: parts) :
    splitSlash (c :: rest) = if c = '/' then [] :: part :: parts else (c :: part) :: parts := by
  rw [splitSlash, h]

/-- A slash separates what is before it from what is after it. -/
theorem splitSlash_append (a b : List Char) :
    splitSlash (a ++ '/' :: b) = splitSlash a ++ splitSlash b := by
  -- on what is before the slash: its first part grows, and the others stay
  induction a with
  | nil =>
    obtain ⟨part, parts, h⟩ := List.exists_cons_of_ne_nil (splitSlash_ne_nil b)
    rw [List.nil_append, splitSlash_cons h, if_pos rfl, h]
    rfl
  | cons c rest ih =>
    obtain ⟨part, parts, h⟩ := List.exists_cons_of_ne_nil (splitSlash_ne_nil rest)
    rw [h, List.cons_append] at ih
    rw [List.cons_append, splitSlash_cons ih, splitSlash_cons h]
    split <;> rfl

/-- What has no slash is a single part. -/
theorem splitSlash_of_notMem {cs : List Char} (h : '/' ∉ cs) : splitSlash cs = [cs] := by
  induction cs with
  | nil => rfl
  | cons c rest ih =>
    rw [List.mem_cons, not_or] at h
    rw [splitSlash_cons (ih h.2), if_neg (Ne.symm h.1)]

/-- No part has a slash inside. -/
theorem notMem_of_mem_splitSlash {cs part : List Char} (h : part ∈ splitSlash cs) :
    '/' ∉ part := by
  -- on the text, for every part of it
  induction cs generalizing part with
  | nil =>
    rw [List.eq_of_mem_singleton h]
    exact List.not_mem_nil
  | cons c rest ih =>
    obtain ⟨first, parts, hrest⟩ := List.exists_cons_of_ne_nil (splitSlash_ne_nil rest)
    rw [hrest] at ih
    rw [splitSlash_cons hrest] at h
    split at h
    · rcases List.mem_cons.1 h with rfl | h
      · exact List.not_mem_nil
      · exact ih h
    · next hc =>
      rcases List.mem_cons.1 h with rfl | h
      · rw [List.mem_cons, not_or]
        exact ⟨Ne.symm hc, ih List.mem_cons_self⟩
      · exact ih (List.mem_cons_of_mem first h)

/-- Splitting undoes putting slashes between parts. -/
theorem splitSlash_intercalate {parts : List (List Char)} (hne : parts ≠ [])
    (hplain : ∀ part ∈ parts, '/' ∉ part) : splitSlash (['/'].intercalate parts) = parts := by
  induction parts with
  | nil => exact absurd rfl hne
  | cons part rest ih =>
    have hpart : '/' ∉ part := hplain part List.mem_cons_self
    -- a slash is only put where another part follows
    cases rest with
    | nil =>
      rw [List.intercalate_singleton, splitSlash_of_notMem hpart]
    | cons next rest =>
      have hrest := ih (List.cons_ne_nil next rest) fun x hx => hplain x (List.mem_cons_of_mem _ hx)
      rw [List.intercalate_cons_cons, List.append_assoc, List.singleton_append, splitSlash_append,
        splitSlash_of_notMem hpart, hrest]
      rfl

/-! ### Parts -/

/-- A text after its leading slash, if it has one. -/
def dropRoot : List Char → List Char
  | [] => []
  | c :: rest => if c = '/' then rest else c :: rest

/-- What is appended stays behind the rest, unless there was nothing. -/
theorem dropRoot_append {a : List Char} (h : a ≠ []) (b : List Char) :
    dropRoot (a ++ b) = dropRoot a ++ b := by
  obtain ⟨c, rest, rfl⟩ := List.exists_cons_of_ne_nil h
  rw [List.cons_append, dropRoot, dropRoot]
  split <;> rfl

theorem isAbsolute_iff {p : Path} : p.isAbsolute = true ↔ p.text.toList.head? = some '/' :=
  beq_iff_eq

/-- The parts of a path are what its text after the leading slash is split into. -/
theorem parts_eq (p : Path) :
    p.parts = (splitSlash (dropRoot p.text.toList)).map String.ofList := by
  -- dropping a character from an absolute path drops the slash
  have hdrop : (if p.isAbsolute = true then p.text.toList.drop 1 else p.text.toList) =
      dropRoot p.text.toList := by
    simp only [isAbsolute_iff]
    cases p.text.toList with
    | nil => exact ite_self _
    | cons c rest =>
      rw [List.head?_cons, dropRoot]
      simp only [Option.some.injEq, List.drop_one, List.tail_cons]
  rw [parts, hdrop]

/-- No part of a path has a slash inside. -/
theorem notMem_toList_of_mem_parts {p : Path} {part : String} (h : part ∈ p.parts) :
    '/' ∉ part.toList := by
  rw [parts_eq, List.mem_map] at h
  obtain ⟨cs, hcs, rfl⟩ := h
  rw [String.toList_ofList]
  exact notMem_of_mem_splitSlash hcs

/-- A relative path starts with a part that is not empty, unless there is no other. -/
theorem ne_empty_of_parts_eq_cons {p : Path} {part : String} {rest : List String}
    (hp : p.isAbsolute = false) (h : p.parts = part :: rest) (hrest : rest ≠ []) : part ≠ "" := by
  rintro rfl
  -- an empty first part would mean that the text starts with a slash
  have hhead : p.text.toList.head? ≠ some '/' := by
    rw [Ne, ← isAbsolute_iff, hp]
    exact Bool.false_ne_true
  rw [parts_eq] at h
  cases htext : p.text.toList with
  | nil =>
    rw [htext] at h
    exact hrest (List.cons.inj h).2.symm
  | cons c cs =>
    rw [htext, List.head?_cons] at hhead
    have hc : c ≠ '/' := fun hc => hhead (congrArg some hc)
    obtain ⟨first, parts, hcs⟩ := List.exists_cons_of_ne_nil (splitSlash_ne_nil cs)
    rw [htext, dropRoot, if_neg hc, splitSlash_cons hcs, if_neg hc, List.map_cons] at h
    have hempty : c :: first = [] := by
      rw [← String.toList_ofList (l := c :: first), (List.cons.inj h).1]
      rfl
    exact List.cons_ne_nil c first hempty

/-! ### Joining a name -/

section Joining

variable (dir : Path) {file : String}

/-- How a name without slashes is joined: after a slash, or where one is not needed. -/
theorem toList_join (h : '/' ∉ file.toList) :
    (dir.text.toList = [] ∧ (dir.join file).text.toList = file.toList) ∨
      (∃ upper, dir.text.toList = upper ++ ['/'] ∧
        (dir.join file).text.toList = upper ++ '/' :: file.toList) ∨
      (dir.text.toList ≠ [] ∧
        (dir.join file).text.toList = dir.text.toList ++ '/' :: file.toList) := by
  have hfile : (Path.mk file).isAbsolute = false := by
    rw [Bool.eq_false_iff, Ne, isAbsolute_iff]
    exact fun hhead => h (List.mem_of_mem_head? hhead)
  unfold join
  rw [hfile, Bool.false_or]
  by_cases hempty : dir.text = ""
  · refine Or.inl ⟨?_, ?_⟩
    · rw [hempty]
      rfl
    · rw [hempty]
      rfl
  have hnil : dir.text.toList ≠ [] := fun hnil => hempty (String.toList_eq_nil_iff.1 hnil)
  rw [if_neg (fun htrue => hempty (String.isEmpty_iff.1 htrue))]
  -- in a directory that is not empty, it depends on the slash at its end
  by_cases hslash : dir.endsInSlash = true
  · obtain ⟨upper, hupper⟩ := List.getLast?_eq_some_iff.1 (beq_iff_eq.1 hslash)
    refine Or.inr (Or.inl ⟨upper, hupper, ?_⟩)
    rw [if_pos hslash, String.toList_append, hupper, List.append_assoc]
    rfl
  · refine Or.inr (Or.inr ⟨hnil, ?_⟩)
    rw [if_neg hslash, String.toList_append, String.toList_append, List.append_assoc]
    rfl

/-- Joining a name leaves an absolute path absolute, and a relative one relative. -/
theorem isAbsolute_join (h : '/' ∉ file.toList) : (dir.join file).isAbsolute = dir.isAbsolute := by
  have hiff : (dir.join file).isAbsolute = true ↔ dir.isAbsolute = true := by
    rw [isAbsolute_iff, isAbsolute_iff]
    rcases toList_join dir h with ⟨hdir, hjoin⟩ | ⟨upper, hdir, hjoin⟩ | ⟨hne, hjoin⟩
    · rw [hdir, hjoin]
      exact iff_of_false (fun hhead => h (List.mem_of_mem_head? hhead)) nofun
    · -- the first character is the same, be it the slash that the directory ends in
      rw [hdir, hjoin]
      cases upper with
      | nil => exact Iff.rfl
      | cons c rest => exact Iff.rfl
    · rw [hjoin, List.head?_append_of_ne_nil _ hne]
  exact Bool.eq_iff_iff.2 hiff

/-- **The parts of a joined path** are those of the directory, without an empty one at its end, and
the name. -/
theorem parts_join (h : '/' ∉ file.toList) :
    (dir.join file).parts = dir.parts ++ [file] ∨
      ∃ upper, dir.parts = upper ++ [""] ∧ (dir.join file).parts = upper ++ [file] := by
  have hsplit : splitSlash file.toList = [file.toList] := splitSlash_of_notMem h
  have hglued : ∀ cs : List Char, (splitSlash (cs ++ '/' :: file.toList)).map String.ofList =
      (splitSlash cs).map String.ofList ++ [file] := by
    intro cs
    rw [splitSlash_append, hsplit, List.map_append, List.map_singleton, String.ofList_toList]
  rw [parts_eq, parts_eq]
  rcases toList_join dir h with ⟨hdir, hjoin⟩ | ⟨upper, hdir, hjoin⟩ | ⟨hne, hjoin⟩
  · -- the empty path has one part, which is empty
    have hroot : dropRoot file.toList = file.toList := by
      cases hcs : file.toList with
      | nil => rfl
      | cons c rest =>
        rw [hcs, List.mem_cons, not_or] at h
        rw [dropRoot, if_neg (Ne.symm h.1)]
    refine Or.inr ⟨[], ?_, ?_⟩
    · rw [hdir]
      rfl
    · rw [hjoin, hroot, hsplit, List.map_singleton, String.ofList_toList]
      rfl
  · rw [hdir, hjoin]
    cases upper with
    | nil =>
      -- the root
      refine Or.inr ⟨[], rfl, ?_⟩
      rw [List.nil_append, dropRoot, if_pos rfl, hsplit, List.map_singleton, String.ofList_toList]
      rfl
    | cons c rest =>
      refine Or.inr ⟨(splitSlash (dropRoot (c :: rest))).map String.ofList, ?_, ?_⟩
      · rw [dropRoot_append (List.cons_ne_nil c rest), splitSlash_append, List.map_append]
        rfl
      · rw [dropRoot_append (List.cons_ne_nil c rest), hglued]
  · -- no slash at the end, so no empty part there
    refine Or.inl ?_
    rw [hjoin, dropRoot_append hne, hglued]

end Joining

/-! ### Elements -/

/-- What a part of a path asks for. -/
inductive Element where
  | root
  | here
  | up
  | into (name : String)
deriving DecidableEq, Repr

/-- What a part asks for, if it asks for anything. -/
def element? (part : String) : Option Element :=
  if part = "" ∨ part = "." then none
  else if part = ".." then some .up
  else some (.into part)

/-- **The elements of a path.** Two paths with the same elements are the same for every purpose but
their text: empty parts do nothing, and neither do single dots, apart from one at the start of a
relative path. -/
def elements (p : Path) : List Element :=
  (if p.isAbsolute then [.root] else if p.parts.head? = some "." then [.here] else []) ++
    p.parts.filterMap element?

example : elements ⟨"./out//./v/../adder.v"⟩ =
    [.here, .into "out", .into "v", .up, .into "adder.v"] := by decide

/-- A text that can be the name of a file in a directory. -/
structure IsFileName (file : String) : Prop where
  noSlash : '/' ∉ file.toList
  ne_empty : file ≠ ""
  ne_dot : file ≠ "."
  ne_dots : file ≠ ".."

section Names

variable (dir : Path) {file : String}

/-- **A name is one element**, after those of the directory. -/
theorem elements_join (h : IsFileName file) :
    (dir.join file).elements = dir.elements ++ [.into file] := by
  have hfile : element? file = some (.into file) := by
    rw [element?, if_neg (not_or.2 ⟨h.ne_empty, h.ne_dot⟩), if_neg h.ne_dots]
  unfold elements
  rw [isAbsolute_join dir h.noSlash]
  -- the parts at the end differ by an empty one at most
  rcases parts_join dir h.noSlash with hjoin | ⟨upper, hdir, hjoin⟩
  · have hne : dir.parts ≠ [] := by
      rw [parts_eq]
      exact fun hnil => splitSlash_ne_nil _ (List.map_eq_nil_iff.1 hnil)
    rw [hjoin, List.filterMap_append, List.head?_append_of_ne_nil _ hne, List.append_assoc,
      List.filterMap_cons_some hfile]
    rfl
  · -- an empty part at the end adds nothing, and a name at the start is not a dot
    have hhead : (upper ++ [file]).head? = some "." ↔ (upper ++ [""]).head? = some "." := by
      cases upper with
      | nil => exact iff_of_false (fun hdot => h.ne_dot (Option.some.inj hdot)) (by decide)
      | cons part rest => exact Iff.rfl
    have hempty : element? "" = none := rfl
    simp only [hdir, hjoin, hhead, List.filterMap_append, List.filterMap_cons_some hfile,
      List.filterMap_cons_none hempty, List.filterMap_nil, List.append_nil, List.append_assoc]

/-- A name is one step more along the way. -/
theorem route_join (h : IsFileName file) :
    FileTree.route (dir.join file) = FileTree.route dir ++ [file] := by
  have hfile : [file].filter (fun part => part ≠ "") = [file] :=
    List.filter_cons_of_pos (decide_eq_true h.ne_empty)
  unfold FileTree.route
  rcases parts_join dir h.noSlash with hjoin | ⟨upper, hdir, hjoin⟩
  · rw [hjoin, List.filter_append, hfile]
  · rw [hdir, hjoin, List.filter_append, List.filter_append, hfile]
    exact congrArg (· ++ [file]) (List.append_nil _).symm

/-- A path that a name has been joined to does not end in a slash. -/
theorem endsInSlash_join (h : IsFileName file) : (dir.join file).endsInSlash = false := by
  have hne : file.toList ≠ [] := fun hnil => h.ne_empty (String.toList_eq_nil_iff.1 hnil)
  have hlast : ∀ before : List Char, (before ++ file.toList).getLast? ≠ some '/' := by
    intro before hslash
    rw [List.getLast?_append_of_ne_nil _ hne] at hslash
    exact h.noSlash (List.mem_of_getLast? hslash)
  rw [endsInSlash, beq_eq_false_iff_ne]
  rcases toList_join dir h.noSlash with ⟨-, hjoin⟩ | ⟨upper, -, hjoin⟩ | ⟨-, hjoin⟩
  · rw [hjoin]
    exact hlast []
  · rw [hjoin, List.append_cons]
    exact hlast _
  · rw [hjoin, List.append_cons]
    exact hlast _

/-- The full way to a file in a directory is the way to the directory, and the name. -/
theorem fullRoute_join (h : IsFileName file) :
    FileTree.fullRoute (dir.join file) = FileTree.route dir ++ [file] := by
  rw [FileTree.fullRoute, endsInSlash_join dir h, if_neg Bool.false_ne_true, route_join dir h]

/-- Joining a name does not change where the way starts. -/
theorem start_join (h : IsFileName file) (cwd : Location) :
    FileTree.start cwd (dir.join file) = FileTree.start cwd dir := by
  rw [FileTree.start, FileTree.start, isAbsolute_join dir h.noSlash]

end Names

/-! ### Joining twice -/

/-- How something relative is joined: to an empty path, behind a slash, or after one that is put
there. -/
theorem join_of_relative (base : Path) {rest : String} (h : Path.isAbsolute ⟨rest⟩ = false) :
    base.join rest = if base.text.isEmpty then ⟨rest⟩
      else if base.endsInSlash then ⟨base.text ++ rest⟩ else ⟨base.text ++ "/" ++ rest⟩ := by
  rw [join, h, Bool.false_or]

/-- A path that starts with a name does not start at the root. -/
theorem isAbsolute_append_of_isFileName {dir : String} (h : IsFileName dir) (tail : String) :
    Path.isAbsolute ⟨dir ++ tail⟩ = false := by
  obtain ⟨c, cs, hcons⟩ := List.exists_cons_of_ne_nil
    fun hnil => h.ne_empty (String.toList_eq_nil_iff.1 hnil)
  rw [Bool.eq_false_iff, Ne, isAbsolute_iff, String.toList_append, hcons]
  intro hslash
  have hc : c = '/' := Option.some.inj hslash
  exact h.noSlash (hcons ▸ hc ▸ List.mem_cons_self)

/-- A path that a name has been joined to is not empty. -/
theorem text_join_ne_empty (base : Path) {file : String} (h : IsFileName file) :
    (base.join file).text ≠ "" := by
  have hne : file.toList ≠ [] := fun hnil => h.ne_empty (String.toList_eq_nil_iff.1 hnil)
  rw [Ne, ← String.toList_eq_nil_iff]
  intro hempty
  rcases toList_join base h.noSlash with ⟨-, hjoin⟩ | ⟨upper, -, hjoin⟩ | ⟨-, hjoin⟩
  · exact hne (hjoin.symm.trans hempty)
  · exact List.append_ne_nil_of_right_ne_nil upper (List.cons_ne_nil _ _)
      (hjoin.symm.trans hempty)
  · exact List.append_ne_nil_of_right_ne_nil base.text.toList (List.cons_ne_nil _ _)
      (hjoin.symm.trans hempty)

/-- **Joining step by step** and joining at once give the same path. -/
theorem join_join (base : Path) {dir rest : String} (hdir : IsFileName dir)
    (hrest : Path.isAbsolute ⟨rest⟩ = false) :
    (base.join dir).join rest = base.join (dir ++ "/" ++ rest) := by
  have hnonempty : ¬ (base.join dir).text.isEmpty = true := by
    rw [String.isEmpty_iff]
    exact text_join_ne_empty base hdir
  have hname : Path.isAbsolute ⟨dir⟩ = false := by
    have happend := isAbsolute_append_of_isFileName hdir ""
    rwa [String.append_empty] at happend
  have hlong : Path.isAbsolute ⟨dir ++ "/" ++ rest⟩ = false := by
    rw [String.append_assoc]
    exact isAbsolute_append_of_isFileName hdir _
  -- a name never ends in a slash, so one is put behind it
  rw [join_of_relative _ hrest, if_neg hnonempty, endsInSlash_join base hdir,
    if_neg Bool.false_ne_true, join_of_relative _ hname, join_of_relative _ hlong]
  -- both ways put the same text behind the base, whatever the base is like
  by_cases hempty : base.text.isEmpty = true
  · rw [if_pos hempty, if_pos hempty]
  · rw [if_neg hempty, if_neg hempty]
    by_cases hslash : base.endsInSlash = true
    · rw [if_pos hslash, if_pos hslash, ← String.append_assoc, ← String.append_assoc]
    · rw [if_neg hslash, if_neg hslash, ← String.append_assoc, ← String.append_assoc]

/-! ### What is above a path -/

theorem prefix_trimEnd (parts : List String) : trimEnd parts <+: parts := by
  -- on the parts, from the first on: what is cut off is an end of them
  induction parts with
  | nil => exact List.prefix_rfl
  | cons part rest ih =>
    unfold trimEnd
    split
    · split
      · exact List.nil_prefix
      · exact List.cons_prefix_cons.2 ⟨rfl, List.nil_prefix⟩
    · exact List.cons_prefix_cons.2 ⟨rfl, ih⟩

/-- The parts that count are the first ones. -/
theorem prefix_countedParts (p : Path) : p.countedParts <+: p.parts := by
  unfold countedParts
  split
  · exact List.nil_prefix
  · next part rest hparts =>
    rw [hparts]
    split
    · split
      · exact List.nil_prefix
      · exact List.cons_prefix_cons.2 ⟨rfl, List.nil_prefix⟩
    · exact List.cons_prefix_cons.2 ⟨rfl, prefix_trimEnd rest⟩

/-- No part counts that would turn a relative path into an absolute one. -/
theorem head?_countedParts {p : Path} (hp : p.isAbsolute = false) :
    p.countedParts.head? ≠ some "" := by
  unfold countedParts
  split
  · -- nothing counts
    exact nofun
  · next part rest hparts =>
    split
    · split
      · exact nofun
      · next hpart =>
        rw [Bool.or_eq_true, not_or, decide_eq_true_eq] at hpart
        exact fun hempty => hpart.1 (Option.some.inj hempty)
    · next hrest =>
      have hne : rest ≠ [] := by
        rintro rfl
        exact hrest rfl
      exact fun hempty => ne_empty_of_parts_eq_cons hp hparts hne (Option.some.inj hempty)

section OfParts

variable {absolute : Bool} {parts : List String}

theorem toList_ofParts : (ofParts absolute parts).text.toList =
    (if absolute then ['/'] else []) ++ ['/'].intercalate (parts.map String.toList) := by
  rw [ofParts, String.toList_append, String.toList_intercalate]
  cases absolute <;> rfl

/-- A path that is put together has the parts that it was made of. -/
theorem parts_ofParts (hne : parts ≠ []) (hplain : ∀ part ∈ parts, '/' ∉ part.toList)
    (hhead : absolute = false → parts.head? ≠ some "") :
    (ofParts absolute parts).isAbsolute = absolute ∧ (ofParts absolute parts).parts = parts := by
  have hsplit : splitSlash (['/'].intercalate (parts.map String.toList)) =
      parts.map String.toList := by
    refine splitSlash_intercalate (fun hnil => hne (List.map_eq_nil_iff.1 hnil)) ?_
    intro cs hcs
    obtain ⟨part, hpart, rfl⟩ := List.mem_map.1 hcs
    exact hplain part hpart
  have hparts : (parts.map String.toList).map String.ofList = parts := by
    simp only [List.map_map, Function.comp_def, String.ofList_toList, List.map_id']
  cases absolute with
  | true =>
    refine ⟨isAbsolute_iff.2 ?_, ?_⟩
    · rw [toList_ofParts]
      rfl
    · rw [parts_eq, toList_ofParts, if_pos rfl, List.singleton_append, dropRoot, if_pos rfl, hsplit,
        hparts]
  | false =>
    -- the first character is one of the first part
    have hfirst : ∃ c rest, ['/'].intercalate (parts.map String.toList) = c :: rest ∧ c ≠ '/' := by
      obtain ⟨part, rest, rfl⟩ := List.exists_cons_of_ne_nil hne
      have hpart : part.toList ≠ [] := fun hnil =>
        hhead rfl (congrArg some (String.toList_eq_nil_iff.1 hnil))
      obtain ⟨c, cs, hcs⟩ := List.exists_cons_of_ne_nil hpart
      have hc : c ≠ '/' := by
        rintro rfl
        exact hplain part List.mem_cons_self (hcs ▸ List.mem_cons_self)
      cases rest with
      | nil => exact ⟨c, cs, by rw [List.map_singleton, List.intercalate_singleton, hcs], hc⟩
      | cons next rest =>
        refine ⟨c, cs ++ ['/'] ++ ['/'].intercalate ((next :: rest).map String.toList), ?_, hc⟩
        rw [List.map_cons, List.map_cons, List.intercalate_cons_cons, hcs]
        rfl
    obtain ⟨c, rest, hcs, hc⟩ := hfirst
    have htext : (ofParts false parts).text.toList = c :: rest := by
      rw [toList_ofParts, ← hcs]
      rfl
    refine ⟨?_, ?_⟩
    · rw [Bool.eq_false_iff, Ne, isAbsolute_iff, htext]
      exact fun hslash => hc (Option.some.inj hslash)
    · rw [parts_eq, htext, dropRoot, if_neg hc, ← hcs, hsplit, hparts]

/-- Putting a path together adds no part but empty ones. -/
theorem route_ofParts (hplain : ∀ part ∈ parts, '/' ∉ part.toList)
    (hhead : absolute = false → parts.head? ≠ some "") :
    (ofParts absolute parts).isAbsolute = absolute ∧
      FileTree.route (ofParts absolute parts) = parts.filter fun part => part ≠ "" := by
  cases parts with
  | nil => cases absolute <;> exact ⟨rfl, rfl⟩
  | cons part rest =>
    obtain ⟨habsolute, hparts⟩ := parts_ofParts (List.cons_ne_nil part rest) hplain hhead
    exact ⟨habsolute, by rw [FileTree.route, hparts]⟩

/-- When a path is put together, the parts that count are the first of those it was made of. -/
theorem prefix_countedParts_ofParts (hplain : ∀ part ∈ parts, '/' ∉ part.toList)
    (hhead : absolute = false → parts.head? ≠ some "") :
    (ofParts absolute parts).countedParts <+: parts := by
  cases parts with
  | nil => cases absolute <;> exact List.nil_prefix
  | cons part rest =>
    obtain ⟨-, hparts⟩ := parts_ofParts (List.cons_ne_nil part rest) hplain hhead
    have hprefix := prefix_countedParts (ofParts absolute (part :: rest))
    rwa [hparts] at hprefix

end OfParts

/-- **A parent leads along the path**, as far as it goes. -/
theorem route_sublist_of_parent? {p q : Path} (h : p.parent? = some q) :
    q.isAbsolute = p.isAbsolute ∧ (FileTree.route q).Sublist (FileTree.route p) := by
  have hhead : p.isAbsolute = false → p.countedParts.head? ≠ some "" := head?_countedParts
  have hparts : p.countedParts.Sublist p.parts := (prefix_countedParts p).sublist
  unfold parent? at h
  split at h
  · cases h
  · next part rest hcounted =>
    obtain rfl := Option.some.inj h
    rw [hcounted] at hhead hparts
    have hupper : (part :: rest).dropLast <+: part :: rest := List.dropLast_prefix _
    have hupperPlain : ∀ x ∈ (part :: rest).dropLast, '/' ∉ x.toList := fun x hx =>
      notMem_toList_of_mem_parts (hparts.subset (hupper.subset hx))
    have hupperHead : p.isAbsolute = false → (part :: rest).dropLast.head? ≠ some "" := by
      cases rest with
      | nil => exact fun _ => nofun
      | cons next rest => exact hhead
    -- of the parts but the last, again only some count
    have habsolute := (route_ofParts hupperPlain hupperHead).1
    have hcounted' := prefix_countedParts_ofParts hupperPlain hupperHead
    obtain ⟨hsame, hroute⟩ := route_ofParts
      (fun x hx => hupperPlain x (hcounted'.subset hx))
      (fun hp => head?_countedParts (habsolute.trans hp))
    refine ⟨hsame, ?_⟩
    rw [hroute]
    exact ((hcounted'.sublist.trans hupper.sublist).trans hparts).filter _

/-- **What is above a path leads along it.** -/
theorem route_sublist_of_mem_ancestors {p q : Path} (h : q ∈ p.ancestors) :
    q.isAbsolute = p.isAbsolute ∧ (FileTree.route q).Sublist (FileTree.route p) := by
  unfold ancestors at h
  generalize p.parts.length + 1 = count at h
  -- on the number of steps up, which is all that ends the climb
  induction count generalizing p with
  | zero => cases h
  | succ count ih =>
    unfold ancestorsUpTo at h
    split at h
    · rw [List.eq_of_mem_singleton h]
      exact ⟨rfl, List.Sublist.refl _⟩
    · next upper hupper =>
      rcases List.mem_cons.1 h with rfl | h
      · exact ⟨rfl, List.Sublist.refl _⟩
      · obtain ⟨habsolute, hroute⟩ := route_sublist_of_parent? hupper
        obtain ⟨habsolute', hroute'⟩ := ih h
        exact ⟨habsolute'.trans habsolute, hroute'.trans hroute⟩

end Path

end Netlist
