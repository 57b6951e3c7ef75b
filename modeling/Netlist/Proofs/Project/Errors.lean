import Netlist.Diagnostic.Sink
import Netlist.Proofs.Chip.Completeness
import Netlist.Proofs.Project.Entries

/-!
# Everything that is wrong is an error

A sink counts errors, and diagnostics can be warnings and notes as well. Of all that is said of a
project nothing is: whatever goes wrong while its components are loaded and its chip is built is an
error, and so is every missing end (`AllErrors`). This is why a count of errors is the number of
diagnostics, and why there is nothing to say when no error has been counted.

The converse matters as much, that nothing goes wrong without being said: a chip that cannot be
created has its diagnostic (`Project.diagnostics_buildChip_ne_nil`), and an incomplete net has at
least one (`Chip.toDiagnostics_ne_nil`).
-/

namespace Netlist

/-- There is no warning and no note among the diagnostics. -/
def AllErrors (ds : List Diagnostic) : Prop :=
  ∀ d ∈ ds, d.severity = .error

namespace AllErrors

variable {ds ds' : List Diagnostic}

theorem nil : AllErrors [] :=
  fun _ hd => nomatch hd

theorem singleton {d : Diagnostic} (h : d.severity = .error) : AllErrors [d] :=
  List.forall_mem_singleton.2 h

theorem append (h : AllErrors ds) (h' : AllErrors ds') : AllErrors (ds ++ ds') :=
  List.forall_mem_append.2 ⟨h, h'⟩

theorem map {α : Type} {f : α → Diagnostic} (h : ∀ x, (f x).severity = .error) (xs : List α) :
    AllErrors (xs.map f) :=
  List.forall_mem_map.2 fun x _ => h x

/-- Counting the errors is counting everything. -/
theorem countP_isError (h : AllErrors ds) :
    ds.countP (fun d => d.severity.isError) = ds.length := by
  refine List.countP_eq_length.2 fun d hd => ?_
  rw [h d hd]
  rfl

theorem countP_warning (h : AllErrors ds) : ds.countP (fun d => d.severity == .warning) = 0 := by
  refine List.countP_eq_zero.2 fun d hd => ?_
  rw [h d hd]
  decide

end AllErrors

/-- A sink into which nothing but errors goes counts what it holds. -/
theorem DiagnosticSink.extend_eq {sink : DiagnosticSink} {ds : List Diagnostic} (hds : AllErrors ds)
    (h : sink.errorCount = sink.held.length) :
    sink.extend ds = ⟨sink.held ++ ds, (sink.held ++ ds).length⟩ := by
  have hcount : (sink.extend ds).errorCount = (sink.held ++ ds).length := by
    rw [sink.errorCount_extend, hds.countP_isError, h, List.length_append]
  calc
    sink.extend ds = ⟨(sink.extend ds).held, (sink.extend ds).errorCount⟩ := rfl
    _ = ⟨sink.held ++ ds, (sink.held ++ ds).length⟩ := by rw [hcount, sink.held_extend]

theorem NetlistError.severity_toDiagnostic (e : NetlistError) :
    e.toDiagnostic.severity = .error := by
  cases e <;> rfl

/-- A violation is reported: it lacks an end. -/
theorem Chip.toDiagnostics_ne_nil {c : Chip} {v : Violation} (h : v ∈ c.violations) :
    v.toDiagnostics ≠ [] := by
  obtain ⟨n, -, hmissing, rfl⟩ := mem_violations_iff.1 h
  exact fun hnil => hmissing (List.map_eq_nil_iff.1 hnil)

/-- Every missing end is an error. -/
theorem allErrors_violations (vs : List Violation) :
    AllErrors (vs.flatMap Violation.toDiagnostics) := by
  intro d hd
  obtain ⟨v, -, hd⟩ := List.mem_flatMap.1 hd
  obtain ⟨s, -, rfl⟩ := List.mem_map.1 hd
  rfl

namespace Project

/-! ### Components -/

theorem allErrors_add {l : LoadedLibrary} (h : AllErrors l.diagnostics) (path : String)
    (content : Except FileError String) : AllErrors (l.add path content).diagnostics := by
  cases content with
  | error e => exact h.append (.singleton rfl)
  | ok source =>
    unfold LoadedLibrary.add
    refine h.append ?_
    split
    · exact .nil
    · -- the source was refused, and that is an error whatever the reason
      exact .singleton rfl

theorem allErrors_loadFrom (root : Path) (paths : List String) {l : LoadedLibrary}
    (h : AllErrors l.diagnostics) (before : Machine) :
    AllErrors ((loadFrom root paths l).run before).1.diagnostics := by
  -- on the files that are still to be loaded
  induction paths generalizing l before with
  | nil => exact h
  | cons path rest ih =>
    rw [loadFrom, Action.run_bind]
    exact ih (allErrors_add h path _) _

/-- Whatever goes wrong while components are loaded is an error. -/
theorem allErrors_loadLibrary (root : Path) (m : Manifest) (before : Machine) :
    AllErrors ((loadLibrary root m).run before).1.diagnostics :=
  allErrors_loadFrom root m.componentPaths (l := .empty) .nil before

/-! ### Chips -/

/-- A step that is refused is an error. -/
theorem allErrors_stepDiagnostics {α : Type} (origin : String) (outcome : Except NetlistError α) :
    AllErrors (stepDiagnostics origin outcome) := by
  cases outcome with
  | ok a => exact .nil
  | error e => exact .singleton e.severity_toDiagnostic

theorem allErrors_addAll {α : Type} {add : Nat → Build → α → Build}
    (hadd : ∀ index b x, AllErrors b.diagnostics → AllErrors (add index b x).diagnostics)
    (index : Nat) (xs : List α) {b : Build} (h : AllErrors b.diagnostics) :
    AllErrors (Build.addAll add index xs b).diagnostics := by
  induction xs generalizing index b with
  | nil => exact h
  | cons x xs ih => exact ih (index + 1) (hadd index b x h)

theorem allErrors_addNets (kind : NetKind) (origin : String) (names : List String) {b : Build}
    (h : AllErrors b.diagnostics) : AllErrors (Build.addNets kind origin names b).diagnostics := by
  rw [Build.addNets_eq_addAll kind origin 0]
  exact allErrors_addAll (fun _ _ _ hb => hb.append (allErrors_stepDiagnostics origin _)) 0 names h

theorem allErrors_addInstance (library : Library) (index : Nat) (p : InstancePlan) {b : Build}
    (h : AllErrors b.diagnostics) : AllErrors (b.addInstance library index p).diagnostics := by
  unfold Build.addInstance
  cases library.get? p.component with
  | none => exact h.append (.singleton rfl)
  | some d =>
    dsimp only
    split
    · exact h.append (allErrors_stepDiagnostics _ _)
    · -- the unknown nets, one diagnostic for each
      exact h.append (.map (fun _ => rfl) _)

/-- Whatever goes wrong while a chip is built is an error. -/
theorem allErrors_buildChip (m : Manifest) (library : Library) :
    AllErrors (buildChip m library).diagnostics := by
  unfold buildChip
  cases Chip.new m.project.name with
  | error e => exact .singleton e.severity_toDiagnostic
  | ok c =>
    -- from the inside out: inputs, outputs, wires
    have hnets := allErrors_addNets .internal "chip.wires" m.chip.wires <|
      allErrors_addNets .boundaryOutput "chip.outputs" m.chip.outputs <|
      allErrors_addNets .boundaryInput "chip.inputs" m.chip.inputs (b := ⟨c, [], []⟩) .nil
    dsimp only
    rw [buildFrom, Build.addInstances_eq_addAll]
    exact allErrors_addAll (fun index _ p hb => allErrors_addInstance library index p hb) 0 _ hnets

/-- A chip that cannot be created is reported. -/
theorem diagnostics_buildChip_ne_nil {m : Manifest} {library : Library}
    (h : (buildChip m library).chip = none) : (buildChip m library).diagnostics ≠ [] := by
  unfold buildChip at h ⊢
  cases hnew : Chip.new m.project.name with
  | error e => exact List.cons_ne_nil _ _
  | ok c =>
    rw [hnew] at h
    cases h

end Project

end Netlist
