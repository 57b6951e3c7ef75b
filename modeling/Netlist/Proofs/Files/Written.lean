import Netlist.Command.Scaffold
import Netlist.Proofs.Files.Trees

/-!
# Files that have been written

What is written to a file can be read from it, as long as nothing else is written to the same place
(`FileTree.Holds`). Paths that end with different names never lead to the same place, whatever the
tree looks like and wherever they start (`FileTree.apart_join`). So a list of files whose paths are
apart can be written one after the other, and each of them holds its text when the last has been
written (`Command.holds_of_run_writeAll`). The files of a new project are such a list.
-/

namespace Netlist

/-- Text is read back from its bytes. -/
theorem fromUTF8?_toUTF8 (text : String) : String.fromUTF8? text.toUTF8 = some text := by
  have hvalid : text.toUTF8.IsValidUTF8 := text.isValidUTF8
  rw [String.fromUTF8?, dif_pos hvalid]
  rfl

namespace FileTree

variable {t t' : FileTree} {cwd : Location} {p q : Path} {text : String}

/-- **The path leads to a file that holds the text.** -/
def Holds (t : FileTree) (cwd : Location) (p : Path) (text : String) : Prop :=
  ∃ loc, t.locate cwd p = .ok loc ∧ t.get? loc = some (.file text.toUTF8)

/-- The two paths lead to different places, if they lead anywhere. -/
def Apart (cwd : Location) (p q : Path) : Prop :=
  ∀ (t : FileTree) (loc : Location), t.locate cwd p = .ok loc → t.locate cwd q ≠ .ok loc

/-- Paths with different names at their ends are apart. -/
theorem apart_join (dir dir' : Path) {file file' : String} (hfile : Path.IsFileName file)
    (hfile' : Path.IsFileName file') (hne : file ≠ file') :
    Apart cwd (dir.join file) (dir'.join file') := by
  intro t loc hloc hloc'
  obtain ⟨upper, -, -, hend⟩ := locate_join hfile hloc
  obtain ⟨upper', -, -, hend'⟩ := locate_join hfile' hloc'
  have hlast : upper ++ [file] = upper' ++ [file'] := hend.symm.trans hend'
  exact hne (List.singleton_inj.1 (List.append_inj_right' hlast rfl))

/-- A file that holds a text is read as this text. -/
theorem Holds.readText (h : t.Holds cwd p text) : t.readText cwd p = .ok text := by
  obtain ⟨loc, hloc, hfile⟩ := h
  have hfind : t.find cwd p = .ok (loc, .file text.toUTF8) := by
    unfold FileTree.find
    rw [hloc]
    dsimp only [bind, Except.bind]
    rw [hfile]
  unfold FileTree.readText
  rw [hfind]
  dsimp only [bind, Except.bind]
  rw [fromUTF8?_toUTF8]

/-- A file that has just been written holds its text. -/
theorem holds_of_writeText (h : t.writeText cwd p text = .ok t') : t'.Holds cwd p text := by
  obtain ⟨loc, hloc, hreplaces⟩ := writeText_eq_ok h
  exact ⟨loc, hreplaces.keepsDirectories.locate hloc, hreplaces.content⟩

/-- Writing somewhere else leaves a file alone. -/
theorem Holds.writeText {other : String} (h : t.Holds cwd p text) (hapart : Apart cwd p q)
    (hwrite : t.writeText cwd q other = .ok t') : t'.Holds cwd p text := by
  obtain ⟨loc, hloc, hfile⟩ := h
  obtain ⟨loc', hloc', hreplaces⟩ := writeText_eq_ok hwrite
  have hne : loc ≠ loc' := by
    rintro rfl
    exact hapart t loc hloc hloc'
  exact ⟨loc, hreplaces.keepsDirectories.locate hloc, (hreplaces.others loc hne).trans hfile⟩

/-- What holds files is no file itself. -/
theorem kindAt?_ne_file {dir : Path} {file : String} {loc : Location}
    (hfile : Path.IsFileName file) (h : t.locate cwd (dir.join file) = .ok loc) :
    t.kindAt? cwd dir ≠ some .file := by
  obtain ⟨upper, hupper, hdirectory, -⟩ := locate_join hfile h
  have hplace : ∀ loc', t.locate cwd dir = .ok loc' → loc' = upper := by
    intro loc' hloc'
    obtain ⟨-, hwalk⟩ := locate_eq_ok_iff.1 hloc'
    unfold fullRoute at hwalk
    split at hwalk
    · -- the dot for a slash at the end leads nowhere else
      rw [walk_append, hupper] at hwalk
      obtain ⟨-, -, hdot⟩ := walk_cons_eq_ok_iff.1 hwalk
      exact (Except.ok.inj hdot).symm
    · exact Except.ok.inj (hwalk.symm.trans hupper)
  unfold kindAt? FileTree.find
  cases hloc : t.locate cwd dir with
  | error e => exact nofun
  | ok loc' =>
    obtain rfl := hplace loc' hloc
    dsimp only [bind, Except.bind]
    rw [hdirectory]
    exact nofun

end FileTree

namespace Command

open FileTree (Holds Apart)

variable {before after : Machine} {files : List (Path × String)}

/-- The first of some files is written before the others. -/
theorem run_writeAll_cons {p : Path} {text : String} {rest : List (Path × String)}
    (h : (writeAll ((p, text) :: rest)).run before = (.ok (), after)) :
    ∃ t, before.files.writeText before.here p text = .ok t ∧
      (writeAll rest).run { before with files := t } = (.ok (), after) := by
  rw [writeAll, Action.run_bind] at h
  have hrun : (Action.writeFile p text).run before = before.writeText p text := rfl
  rw [hrun, Machine.writeText] at h
  cases hwrite : before.files.writeText before.here p text with
  | error e =>
    rw [hwrite] at h
    cases h
  | ok t =>
    rw [hwrite] at h
    exact ⟨t, rfl, h⟩

/-- Writing files does not change the working directory. -/
theorem cwd_run_writeAll (h : (writeAll files).run before = (.ok (), after)) :
    after.cwd = before.cwd := by
  induction files generalizing before with
  | nil =>
    obtain rfl : before = after := congrArg Prod.snd h
    rfl
  | cons x rest ih =>
    obtain ⟨t, -, hrest⟩ := run_writeAll_cons h
    apply ih hrest

/-- A file that is apart from all that are written keeps its text. -/
theorem holds_after_writeAll {p : Path} {text : String}
    (h : (writeAll files).run before = (.ok (), after))
    (hheld : before.files.Holds before.here p text)
    (hapart : ∀ x ∈ files, Apart before.here p x.1) : after.files.Holds before.here p text := by
  -- on the files that are still to be written
  induction files generalizing before with
  | nil =>
    obtain rfl : before = after := congrArg Prod.snd h
    exact hheld
  | cons x rest ih =>
    obtain ⟨hfirst, hothers⟩ := List.forall_mem_cons.1 hapart
    obtain ⟨t, hwrite, hrest⟩ := run_writeAll_cons h
    apply ih hrest
    · exact hheld.writeText hfirst hwrite
    · exact hothers

/-- **Every file that is written holds its text at the end**, if the files are apart. -/
theorem holds_of_run_writeAll (h : (writeAll files).run before = (.ok (), after))
    (hapart : files.Pairwise fun x y => Apart before.here x.1 y.1) :
    ∀ x ∈ files, after.files.Holds before.here x.1 x.2 := by
  -- on the files; the machine is the one that the first of them has left
  induction files generalizing before with
  | nil => exact List.forall_mem_nil _
  | cons x rest ih =>
    obtain ⟨hfirst, hothers⟩ := List.pairwise_cons.1 hapart
    obtain ⟨t, hwrite, hrest⟩ := run_writeAll_cons h
    have hheld : t.Holds before.here x.1 x.2 := FileTree.holds_of_writeText hwrite
    refine List.forall_mem_cons.2 ⟨?_, ?_⟩
    · -- those that are written later leave the first alone
      apply holds_after_writeAll hrest
      · exact hheld
      · exact hfirst
    · apply ih hrest
      exact hothers

end Command

end Netlist
