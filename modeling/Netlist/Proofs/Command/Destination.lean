import Netlist.Command.Build
import Netlist.Proofs.Chip.Growth
import Netlist.Proofs.Files.Trees
import Netlist.Proofs.Names.Identifier

/-!
# Where a module is written

The file of a module is named after its chip, with an ending that the manifest chooses. Neither of
the two can lead out of the output directory: a chip is called by an identifier, and the ending has
been checked to be bare. So the file name is one name (`isModuleFile_of`), with the only dot between
its halves, and joining it to a directory adds one element, whatever text the directory is given by
(`Path.elements_join`). `output_directlyInside` puts both together. Nothing is asked of the
directory: it can be empty, absolute, end in a slash or go up.
-/

namespace Netlist

/-! ### Names of module files -/

/-- **A file name with one dot.** No part of it is taken for a directory, on any system. -/
structure IsModuleFile (file : String) : Prop extends Path.IsFileName file where
  noBackslash : '\\' ∉ file.toList
  oneDot : file.toList.count '.' = 1

/-- An ending is bare if it has no dot and no slash of either kind. -/
theorem Manifest.isBareExtension_iff {extension : String} : isBareExtension extension = true ↔
    '.' ∉ extension.toList ∧ '/' ∉ extension.toList ∧ '\\' ∉ extension.toList := by
  simp only [isBareExtension, List.all_eq_true, Bool.and_eq_true, bne_iff_ne, ne_eq]
  refine ⟨fun h => ⟨?_, ?_, ?_⟩, fun h c hc => ?_⟩
  · exact fun hmem => (h '.' hmem).1.1 rfl
  · exact fun hmem => (h '/' hmem).1.2 rfl
  · exact fun hmem => (h '\\' hmem).2 rfl
  · -- each character is none of the three, since none of them is in the text
    refine ⟨⟨?_, ?_⟩, ?_⟩
    · rintro rfl
      exact h.1 hc
    · rintro rfl
      exact h.2.1 hc
    · rintro rfl
      exact h.2.2 hc

/-- A manifest without problems has a bare ending. -/
theorem Manifest.isBareExtension_of_problem? {m : Manifest} (h : m.problem? = none) :
    isBareExtension m.output.extension = true := by
  cases hbare : isBareExtension m.output.extension with
  | true => rfl
  | false =>
    -- whichever check comes first, there is a problem
    unfold problem? at h
    rw [hbare] at h
    split at h
    · cases h
    · split at h
      · cases h
      · split at h <;> cases h

/-- The characters of a file name: those of the name, a dot, and those of the ending. -/
theorem toList_moduleFile (name extension : String) :
    s!"{name}.{extension}".toList = name.toList ++ '.' :: extension.toList := by
  change (name ++ "." ++ extension).toList = _
  rw [String.toList_append, String.toList_append, List.append_assoc]
  rfl

/-- **An identifier with a bare ending is a file name.** -/
theorem isModuleFile_of {name extension : String} (hname : IsIdentifier name)
    (hextension : Manifest.isBareExtension extension = true) :
    IsModuleFile s!"{name}.{extension}" := by
  obtain ⟨hdot, hslash, hbackslash⟩ := Manifest.isBareExtension_iff.1 hextension
  have hnameDot : '.' ∉ name.toList := hname.notMem rfl
  have hnotMem : ∀ {c : Char}, Identifier.isContinuation c = false → c ≠ '.' →
      c ∉ extension.toList → c ∉ s!"{name}.{extension}".toList := by
    intro c hc hne hending hmem
    rw [toList_moduleFile, List.mem_append, List.mem_cons] at hmem
    rcases hmem with hmem | rfl | hmem
    · exact hname.notMem hc hmem
    · exact hne rfl
    · exact hending hmem
  have hone : s!"{name}.{extension}".toList.count '.' = 1 := by
    rw [toList_moduleFile, List.count_append, List.count_cons_self,
      List.count_eq_zero_of_not_mem hnameDot, List.count_eq_zero_of_not_mem hdot]
  -- the first character is one of an identifier, so it is not a dot
  have hfirst : s!"{name}.{extension}".toList.head? ≠ some '.' := by
    rw [toList_moduleFile, List.head?_append_of_ne_nil _ hname.toList_ne_nil]
    exact fun hhead => hnameDot (List.mem_of_mem_head? hhead)
  have hother : ∀ {file : String}, file.toList.count '.' ≠ 1 → s!"{name}.{extension}" ≠ file := by
    rintro _ hcount rfl
    exact hcount hone
  refine ⟨⟨hnotMem rfl (by decide) hslash, hother (by decide), ?_, hother (by decide)⟩,
    hnotMem rfl (by decide) hbackslash, hone⟩
  intro heq
  rw [heq] at hfirst
  exact hfirst rfl

/-- The halves of the name are known from the name. -/
theorem moduleFile_inj {name other ending otherEnding : String} (hother : '.' ∉ other.toList)
    (hending : '.' ∉ otherEnding.toList)
    (h : s!"{other}.{otherEnding}" = s!"{name}.{ending}") :
    other = name ∧ otherEnding = ending := by
  have htext := congrArg String.toList h
  -- the one dot of a file name is where it is cut
  rw [toList_moduleFile, toList_moduleFile,
    List.append_cons_inj_of_notMem hother hending] at htext
  obtain ⟨hnames, -, hendings⟩ := htext
  exact ⟨String.toList_inj.1 hnames, String.toList_inj.1 hendings⟩

/-! ### Files in a directory -/

namespace Command

/-- **The file is directly inside the directory.** Its path goes one element further, and wherever
the path leads, in whatever tree, the place is one below that of the directory. -/
structure DirectlyInside (dir path : Path) (file : String) : Prop where
  elements : path.elements = dir.elements ++ [.into file]
  located : ∀ (t : FileTree) cwd loc, t.locate cwd path = .ok loc →
    ∃ upper, t.walk (FileTree.start cwd dir) (FileTree.route dir) = .ok upper ∧
      t.get? upper = some .directory ∧ loc = upper ++ [file]

/-- A file name that is joined to a directory gives a file directly inside of it. -/
theorem directlyInside_join (dir : Path) {file : String} (h : Path.IsFileName file) :
    DirectlyInside dir (dir.join file) file where
  elements := Path.elements_join dir h
  located _ _ _ hloc := FileTree.locate_join h hloc

/-- **Modules never leave the output directory.** For a manifest without problems that names a chip,
and for every output directory, whether it is the manifest's or the user's, the file is the
directory with one name after it, which is made of the name of the chip, a dot and the ending. Two
such files are the same only if they are in the same directory and have the same name and the same
ending. -/
theorem output_directlyInside {m : Manifest} {c : Chip} (hm : m.problem? = none)
    (hc : Chip.new m.project.name = .ok c) (root : Path) (outputDir : Option String) :
    IsModuleFile s!"{m.project.name}.{m.output.extension}" ∧
    DirectlyInside (outputOptions root m outputDir).dir
      ((outputOptions root m outputDir).pathFor c.name)
      s!"{m.project.name}.{m.output.extension}" ∧
    ∀ (m' : Manifest) c' root' outputDir', m'.problem? = none →
      Chip.new m'.project.name = .ok c' →
      (((outputOptions root' m' outputDir').pathFor c'.name).elements =
          ((outputOptions root m outputDir).pathFor c.name).elements ↔
        (outputOptions root' m' outputDir').dir.elements =
          (outputOptions root m outputDir).dir.elements ∧
        m'.project.name = m.project.name ∧ m'.output.extension = m.output.extension) := by
  have hfile : ∀ {m : Manifest} {c : Chip}, m.problem? = none → Chip.new m.project.name = .ok c →
      IsModuleFile s!"{m.project.name}.{m.output.extension}" := fun hm hc =>
    isModuleFile_of (Chip.new_eq_ok hc).1 (Manifest.isBareExtension_of_problem? hm)
  have hpath : ∀ {m : Manifest} {c : Chip} root outputDir, Chip.new m.project.name = .ok c →
      (outputOptions root m outputDir).pathFor c.name =
        (outputOptions root m outputDir).dir.join s!"{m.project.name}.{m.output.extension}" := by
    intro m c root outputDir hc
    obtain ⟨-, rfl⟩ := Chip.new_eq_ok hc
    rfl
  rw [hpath root outputDir hc]
  refine ⟨hfile hm hc, directlyInside_join _ (hfile hm hc).toIsFileName, ?_⟩
  intro m' c' root' outputDir' hm' hc'
  rw [hpath root' outputDir' hc', Path.elements_join _ (hfile hm' hc').toIsFileName,
    Path.elements_join _ (hfile hm hc).toIsFileName]
  refine ⟨fun heq => ?_, ?_⟩
  · -- both paths end with a name, and the name tells its halves
    obtain ⟨hdirs, hfiles⟩ := List.append_inj' heq rfl
    obtain ⟨hdot, -, -⟩ :=
      Manifest.isBareExtension_iff.1 (Manifest.isBareExtension_of_problem? hm')
    exact ⟨hdirs, moduleFile_inj ((Chip.new_eq_ok hc').1.notMem rfl) hdot
      (Path.Element.into.inj (List.singleton_inj.1 hfiles))⟩
  · rintro ⟨hdirs, hnames, hextensions⟩
    rw [hdirs, hnames, hextensions]

/-- A manifest whose ending is not made of letters. -/
def oddManifest : Manifest where
  project := ⟨"neg", "", ""⟩
  output := ⟨"out/..//", "~ é"⟩
  componentPaths := []
  chip := ⟨[], [], [], []⟩

/-- The odd manifest has its file in a directory that goes up, and elsewhere if the user says so. -/
theorem output_directlyInside_odd :
    oddManifest.problem? = none ∧ (Chip.new oddManifest.project.name).isOk = true ∧
    IsModuleFile "neg.~ é" ∧
    ((outputOptions ⟨"/"⟩ oddManifest none).pathFor "neg").elements =
      [.root, .into "out", .up, .into "neg.~ é"] ∧
    ((outputOptions ⟨"/"⟩ oddManifest (some "")).pathFor "neg").elements ≠
      ((outputOptions ⟨"/"⟩ oddManifest none).pathFor "neg").elements := by
  have hnew : Chip.new oddManifest.project.name = .ok ⟨"neg", .empty, .empty, .empty⟩ := rfl
  have hnone : oddManifest.problem? = none := by decide
  obtain ⟨hfile, hinside, hsame⟩ := output_directlyInside hnone hnew ⟨"/"⟩ none
  refine ⟨hnone, rfl, hfile, hinside.elements, fun heq => ?_⟩
  obtain ⟨hdirs, -⟩ := (hsame oddManifest _ ⟨"/"⟩ (some "") hnone hnew).1 heq
  revert hdirs
  decide

end Command

end Netlist
