import Netlist.Component.Source
import Netlist.Proofs.Answers
import Netlist.Proofs.Chip.Mapping
import Netlist.Proofs.Toml.Keys

/-!
# What a component source has to say

A source is read as a table, the table as a record, and the record is checked: its name first, then
its ports. `Declares` says what a table gives, field by field, without readers and without an order,
and `describe_eq_ok_iff` that a source is accepted exactly when its table declares something, under
a name that is an identifier and with ports that are all different.

The readers look fields up and check all entries of the table. Both come down to what is in the
table because no key comes twice in it (`Toml.parse?_wellKeyed`).

Ports are looked at one by one, with those seen so far at hand. `firstRepeat?_eq_some_iff` says
where this stops: at the first name that stands further in front as well. If it does not stop, each
port is found at its own position, and connections can name the ports in any order.
-/

namespace Netlist

/-! ### Fields of a table -/

namespace Toml

/-- A text field, with its default. -/
def GivesText (t : Table) (key : String) (text : String) : Prop :=
  (key, .string text) ∈ t ∨ key ∉ t.map Prod.fst ∧ text = ""

/-- A field with a list of texts. -/
def GivesTexts (t : Table) (key : String) (texts : List String) : Prop :=
  (key, .array (texts.map .string)) ∈ t ∨ key ∉ t.map Prod.fst ∧ texts = []

theorem asString_eq_ok_iff {v : Value} {s : String} : v.asString = .ok s ↔ v = .string s := by
  cases v <;> simp [Value.asString]

theorem asStrings_eq_ok_iff {v : Value} {texts : List String} :
    v.asStrings = .ok texts ↔ v = .array (texts.map .string) := by
  cases v with
  | array items =>
    rw [Value.asStrings, Value.asListOf, mapM_eq_ok_iff, Value.array.injEq]
    simp only [asString_eq_ok_iff]
    rw [← List.forall₂_map_right_iff, List.forall₂_eq_eq_eq]
  | _ => simp [Value.asStrings, Value.asListOf]

section Fields

variable {t : Table} {name key : String} {fields : List String} {α : Type}
  {read : Value → Except ShapeError α} {a default : α}

/-- A field that has to be there is read of its entry. -/
theorem required_eq_ok_iff (h : (t.map Prod.fst).Nodup) :
    (Record.ofTable name fields t).required key read = .ok a ↔
      ∃ v, (key, v) ∈ t ∧ read v = .ok a := by
  unfold Record.required Record.ofTable
  simp only [← lookup_eq_some_iff_of_nodup h]
  cases t.lookup key <;> simp

/-- A field that need not be there has what is read of its entry, or its default. -/
theorem withDefault_eq_ok_iff (h : (t.map Prod.fst).Nodup) :
    (Record.ofTable name fields t).withDefault key default read = .ok a ↔
      (∃ v, (key, v) ∈ t ∧ read v = .ok a) ∨ key ∉ t.map Prod.fst ∧ a = default := by
  unfold Record.withDefault Record.ofTable
  simp only [← lookup_eq_some_iff_of_nodup h, ← lookup_eq_none_iff_not_mem]
  cases t.lookup key <;> simp [eq_comm]

end Fields

/-- A check for a field asks whether its value can be read. -/
theorem readable_eq_ok_iff {α : Type} {read : Value → Except ShapeError α} {v : Value} :
    readable read v = .ok () ↔ ∃ a, read v = .ok a := by
  unfold readable
  cases read v <;> simp [Except.map]

/-- A strict check knows the keys of all entries that pass it. -/
theorem mem_of_strict_eq_ok {checks : List (String × Check)} {key : String} {v : Value}
    (h : strict checks key v = .ok ()) : key ∈ checks.map Prod.fst := by
  by_contra hkey
  rw [strict, lookup_eq_none_iff_not_mem.2 hkey] at h
  cases h

section Given

variable {t : Table} {key : String} {v : Value}

/-- Where no key comes twice, a key has one value. -/
theorem eq_of_mem_of_nodup (h : (t.map Prod.fst).Nodup) {v' : Value} (hv : (key, v) ∈ t)
    (hv' : (key, v') ∈ t) : v = v' :=
  Option.some.inj (((lookup_eq_some_iff_of_nodup h).2 hv).symm.trans
    ((lookup_eq_some_iff_of_nodup h).2 hv'))

/-- Where a field gives a text, its value can be read as one. -/
theorem GivesText.readable (h : (t.map Prod.fst).Nodup) {text : String}
    (hgives : GivesText t key text) (hv : (key, v) ∈ t) : readable Value.asString v = .ok () := by
  rcases hgives with hmem | ⟨habsent, -⟩
  · exact readable_eq_ok_iff.2 ⟨text, asString_eq_ok_iff.2 (eq_of_mem_of_nodup h hv hmem)⟩
  · exact absurd (List.mem_map_of_mem hv) habsent

/-- Where a field gives texts, its value can be read as a list of them. -/
theorem GivesTexts.readable (h : (t.map Prod.fst).Nodup) {texts : List String}
    (hgives : GivesTexts t key texts) (hv : (key, v) ∈ t) :
    readable Value.asStrings v = .ok () := by
  rcases hgives with hmem | ⟨habsent, -⟩
  · exact readable_eq_ok_iff.2 ⟨texts, asStrings_eq_ok_iff.2 (eq_of_mem_of_nodup h hv hmem)⟩
  · exact absurd (List.mem_map_of_mem hv) habsent

end Given

end Toml

/-! ### Repeated names -/

/-- **The first repetition** is the first name that stands further in front as well. -/
theorem firstRepeat?_eq_some_iff {seen xs : List String} {x : String} :
    firstRepeat? seen xs = some x ↔ ∃ before after, xs = before ++ x :: after ∧
      before.Nodup ∧ (∀ y ∈ before, y ∉ seen) ∧ x ∈ before ++ seen := by
  -- on the names still to be looked at; those seen so far grow along the way
  induction xs generalizing seen with
  | nil => simp [firstRepeat?]
  | cons y rest ih =>
    unfold firstRepeat?
    split
    · next hseen =>
      have hy : y ∈ seen := List.contains_iff_mem.1 hseen
      constructor
      · rintro ⟨⟩
        exact ⟨[], rest, rfl, List.nodup_nil, List.forall_mem_nil _, hy⟩
      · rintro ⟨before, after, hsplit, -, hnew, -⟩
        rcases List.cons_eq_append_iff.1 hsplit with ⟨-, hlast⟩ | ⟨before', rfl, -⟩
        · exact congrArg some (List.cons.inj hlast).1.symm
        · exact absurd hy (hnew y List.mem_cons_self)
    · next hseen =>
      have hy : y ∉ seen := fun hy => hseen (List.contains_iff_mem.2 hy)
      rw [ih]
      constructor
      · rintro ⟨before, after, rfl, hnodup, hnew, hx⟩
        refine ⟨y :: before, after, rfl, List.nodup_cons.2 ⟨fun hmem => ?_, hnodup⟩,
          List.forall_mem_cons.2 ⟨hy, fun z hz => ?_⟩, ?_⟩
        · exact hnew y hmem List.mem_cons_self
        · exact List.not_mem_of_not_mem_cons (hnew z hz)
        · exact List.perm_middle.mem_iff.1 hx
      · rintro ⟨before, after, hsplit, hnodup, hnew, hx⟩
        rcases List.cons_eq_append_iff.1 hsplit with ⟨rfl, hlast⟩ | ⟨before', rfl, hrest⟩
        · -- `x` would be the first name of all, and be repeated
          obtain rfl := (List.cons.inj hlast).1
          exact absurd hx hy
        · obtain ⟨hfirst, hnodup'⟩ := List.nodup_cons.1 hnodup
          refine ⟨before', after, hrest, hnodup', fun z hz hmem => ?_,
            List.perm_middle.mem_iff.2 hx⟩
          rcases List.mem_cons.1 hmem with rfl | hmem
          · exact hfirst hz
          · exact hnew z (List.mem_cons_of_mem _ hz) hmem

namespace Component

open Toml (Table Value GivesText GivesTexts)

/-! ### Declarations -/

/-- **The table declares the component**: it has no keys but these four, and each field has what is
there, or its default. -/
structure Declares (t : Table) (d : Component) : Prop where
  keys : ∀ key ∈ t.map Prod.fst, key ∈ ["name", "inputs", "outputs", "doc"]
  name : ("name", .string d.name) ∈ t
  inputs : GivesTexts t "inputs" d.inputPorts
  outputs : GivesTexts t "outputs" d.outputPorts
  documentation : GivesText t "doc" d.documentation

/-- **A table is read as the component that it declares**, if it declares one. -/
theorem ofTable?_eq_ok_iff {t : Table} (h : (t.map Prod.fst).Nodup) {d : Component} :
    ofTable? t = .ok d ↔ Declares t d := by
  unfold ofTable?
  simp only [bind_eq_ok_iff, Toml.required_eq_ok_iff h, Toml.withDefault_eq_ok_iff h,
    Toml.asString_eq_ok_iff, Toml.asStrings_eq_ok_iff, exists_eq_right]
  constructor
  · rintro ⟨_, hcheck, name, hname, inputs, hinputs, outputs, houtputs, doc, hdoc, hd⟩
    obtain rfl := Except.ok.inj hd
    refine ⟨fun key hkey => ?_, hname, hinputs, houtputs, hdoc⟩
    obtain ⟨e, he, rfl⟩ := List.mem_map.1 hkey
    exact Toml.mem_of_strict_eq_ok (Toml.checkEntries_eq_ok_iff.1 hcheck e he)
  · rintro ⟨hkeys, hname, hinputs, houtputs, hdoc⟩
    refine ⟨(), Toml.checkEntries_eq_ok_iff.2 ?_, _, hname, _, hinputs, _, houtputs, _, hdoc, rfl⟩
    rintro ⟨key, v⟩ he
    -- the entry is that of one of the four fields, and has the value that the field is given
    have hkey := hkeys key (List.mem_map_of_mem he)
    simp only [List.mem_cons, List.not_mem_nil, or_false] at hkey
    rcases hkey with rfl | rfl | rfl | rfl
    · exact GivesText.readable h (Or.inl hname) he
    · exact hinputs.readable h he
    · exact houtputs.readable h he
    · exact hdoc.readable h he

theorem not_isIdentifier_empty : ¬ IsIdentifier "" := by decide

/-- If the name is an identifier, all that can be wrong is a repeated port. -/
theorem problem?_of_isIdentifier {d : Component} (h : IsIdentifier d.name) :
    d.problem? = (firstRepeat? [] d.allPorts).map fun port =>
      s!"port `{port}` is declared more than once" := by
  have hname : ¬ d.name.isEmpty = true := by
    rw [String.isEmpty_iff]
    exact fun hempty => not_isIdentifier_empty (hempty ▸ h)
  rw [problem?, if_neg hname, checkIdentifier_eq_ok_iff.2 h]

/-- A component is in order when its name is an identifier and its ports are all different. -/
theorem problem?_eq_none_iff {d : Component} :
    d.problem? = none ↔ IsIdentifier d.name ∧ d.allPorts.Nodup := by
  by_cases h : IsIdentifier d.name
  · rw [problem?_of_isIdentifier h, Option.map_eq_none_iff, firstRepeat?_eq_none_iff]
    simp [h]
  · -- the name is reported first, whether it is empty or has another flaw
    have hproblem : d.problem? ≠ none := by
      unfold problem?
      split
      · exact Option.some_ne_none _
      · split
        · exact Option.some_ne_none _
        · next hname => exact absurd (checkIdentifier_eq_ok_iff.1 hname) h
    exact ⟨fun hnone => absurd hnone hproblem, fun hboth => absurd hboth.1 h⟩

/-! ### Sources -/

variable {source : String} {t : Table} {d : Component}

/-- No key comes twice in the table of a source. -/
theorem nodup_keys_of_parse? (h : Toml.parse? source = some t) : (t.map Prod.fst).Nodup := by
  cases Toml.parse?_wellKeyed h with
  | table nodup _ => exact nodup

/-- A table is accepted if it can be read, and if what is read is in order. -/
theorem describeTable_eq_ok_iff :
    describeTable t = .ok d ↔ ofTable? t = .ok d ∧ d.problem? = none := by
  unfold describeTable
  cases ofTable? t with
  | error e => exact ⟨(nomatch ·), fun h => (nomatch h.1)⟩
  | ok c =>
    dsimp only
    split
    · next reason hproblem =>
      refine ⟨(nomatch ·), fun ⟨hc, hnone⟩ => ?_⟩
      obtain rfl := Except.ok.inj hc
      cases hproblem.symm.trans hnone
    · next hproblem =>
      refine ⟨fun hc => ?_, fun h => congrArg _ (Except.ok.inj h.1)⟩
      obtain rfl := Except.ok.inj hc
      exact ⟨rfl, hproblem⟩

/-- A source that is a table is described as the table is. -/
theorem describe_of_parse? (h : Toml.parse? source = some t) :
    describe source = describeTable t := by
  rw [describe, h]

/-- **A source is accepted** when its table declares a component that is in order. -/
theorem describe_eq_ok_iff (h : Toml.parse? source = some t) :
    describe source = .ok d ↔ Declares t d ∧ IsIdentifier d.name ∧ d.allPorts.Nodup := by
  rw [describe_of_parse? h, describeTable_eq_ok_iff, ofTable?_eq_ok_iff (nodup_keys_of_parse? h),
    problem?_eq_none_iff]

/-- If only the ports are not in order, the first repeated one is reported. -/
theorem describe_of_not_nodup (h : Toml.parse? source = some t) (hd : Declares t d)
    (hname : IsIdentifier d.name) (hports : ¬ d.allPorts.Nodup) :
    ∃ before port after, d.allPorts = before ++ port :: after ∧ before.Nodup ∧ port ∈ before ∧
      describe source = .error (.rejected s!"port `{port}` is declared more than once") := by
  have hread : ofTable? t = .ok d := (ofTable?_eq_ok_iff (nodup_keys_of_parse? h)).2 hd
  cases hrepeat : firstRepeat? [] d.allPorts with
  | none => exact absurd (firstRepeat?_eq_none_iff.1 hrepeat).1 hports
  | some port =>
    obtain ⟨before, after, hsplit, hnodup, -, hmem⟩ := firstRepeat?_eq_some_iff.1 hrepeat
    rw [List.append_nil] at hmem
    refine ⟨before, port, after, hsplit, hnodup, hmem, ?_⟩
    rw [describe_of_parse? h, describeTable, hread]
    dsimp only
    rw [problem?_of_isIdentifier hname, hrepeat]
    rfl

/-- **Every port can be connected by name**: it is found at its own place, and connections may name
the ports in any order. -/
structure Connectable (d : Component) : Prop where
  findPort?_eq_some : ∀ dir i port, (d.ports dir)[i]? = some port →
    d.findPort? port = some (dir, i)
  instantiateByName_eq : ∀ (c : Chip) (inputs outputs : List NetId),
    (inputs.length, outputs.length) = d.arity → ∀ connections : List (String × NetId),
      connections.Perm (d.inputPorts.zip inputs ++ d.outputPorts.zip outputs) →
        c.instantiateByName d connections = c.instantiate d inputs outputs

/-- A component with different ports can be connected by name. -/
theorem connectable_of_nodup (h : d.allPorts.Nodup) : d.Connectable where
  findPort?_eq_some := nodup_allPorts_iff.1 h
  instantiateByName_eq c inputs outputs harity connections hperm := by
    obtain ⟨hinputs, houtputs⟩ := Prod.mk.inj harity
    refine Chip.instantiateByName_of_connects c ⟨h, fun dir => ?_, ?_⟩
    · cases dir with
      | input => exact hinputs
      | output => exact houtputs
    · rwa [allPorts, List.zip_append hinputs.symm]

/-- **Exactly which sources are accepted.** Of a source that is a table: it describes the component
that the table declares, provided that this has an identifier for its name and no port twice. If
only the ports are wrong, the first port that stands further in front as well is reported. And of
what is described, every port can be connected by name. -/
theorem describe_exact (h : Toml.parse? source = some t) :
    (∀ d, describe source = .ok d ↔ Declares t d ∧ IsIdentifier d.name ∧ d.allPorts.Nodup) ∧
      (∀ d, Declares t d → IsIdentifier d.name → ¬ d.allPorts.Nodup →
        ∃ before port after, d.allPorts = before ++ port :: after ∧ before.Nodup ∧
          port ∈ before ∧
            describe source = .error (.rejected s!"port `{port}` is declared more than once")) ∧
      ∀ d, describe source = .ok d → d.Connectable :=
  ⟨fun _ => describe_eq_ok_iff h, fun _ => describe_of_not_nodup h,
    fun _ hok => connectable_of_nodup ((describe_eq_ok_iff h).1 hok).2.2⟩

/-- The source of the adder, with its fields in another order. -/
def adderText : String :=
  "outputs = [\"z\"]\nname = \"Adder\"\ninputs = [\"x\", \"y\"]\n"

/-- A source with a port among the outputs that is named like one of the inputs. -/
def echoText : String :=
  "name = \"Echo\"\ninputs = [\"x\", \"y\"]\noutputs = [\"z\", \"x\"]\n"

/-- The adder is accepted, and its output is found at its place. The echo is declared but not
accepted: the second `x` is reported, and nothing in front of it. -/
theorem describe_exact_adder_echo :
    (∃ t, Toml.parse? adderText = some t ∧ Declares t ⟨"Adder", ["x", "y"], ["z"], ""⟩ ∧
      Component.findPort? ⟨"Adder", ["x", "y"], ["z"], ""⟩ "z" = some (.output, 0)) ∧
    ∃ t, Toml.parse? echoText = some t ∧ Declares t ⟨"Echo", ["x", "y"], ["z", "x"], ""⟩ ∧
      ∃ before port after, ["x", "y", "z", "x"] = before ++ port :: after ∧ before.Nodup ∧
        port ∈ before ∧
          describe echoText = .error (.rejected s!"port `{port}` is declared more than once") := by
  constructor
  · obtain ⟨t, ht⟩ : ∃ t, Toml.parse? adderText = some t :=
      Option.isSome_iff_exists.1 (by decide +kernel)
    have hok : describe adderText = .ok ⟨"Adder", ["x", "y"], ["z"], ""⟩ := by decide +kernel
    obtain ⟨haccepted, -, hconnectable⟩ := describe_exact ht
    exact ⟨t, ht, ((haccepted _).1 hok).1, (hconnectable _ hok).findPort?_eq_some .output 0 "z" rfl⟩
  · have hread : (Toml.parse? echoText).map ofTable? =
        some (.ok ⟨"Echo", ["x", "y"], ["z", "x"], ""⟩) := by decide +kernel
    obtain ⟨t, ht, hok⟩ := Option.map_eq_some_iff.1 hread
    have hdeclares := (ofTable?_eq_ok_iff (nodup_keys_of_parse? ht)).1 hok
    obtain ⟨-, hrepeated, -⟩ := describe_exact ht
    exact ⟨t, ht, hdeclares, hrepeated _ hdeclares (by decide) (by decide)⟩

end Component

end Netlist
