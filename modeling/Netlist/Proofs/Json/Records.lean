import Mathlib.Data.List.Nodup
import Netlist.Component
import Netlist.Diagnostic.Stored
import Netlist.Proofs.Answers

/-!
# Records kept as JSON

A stored form says how values of a type are written as JSON and read again. One and the same record
can be kept in many ways: as a list of its fields, or as an object whose members come in any order,
among members that mean nothing, and some of which may be left out. What is read from all of them is
written in one way, the canonical form (`StoredForm.canonical?`).

Each member that a record can have is listed with the value that says as much as leaving it out
(`Member.blank`): null for the subject of a diagnostic, the empty list for its notes, the empty text
for the documentation of a component. What an object says about a member (`entry`) is then all that
matters when the object is read (`field?_object`): objects with the same entries (`SameEntries`) are
read alike. Members that mean nothing, members with a blank value and the order of members do not
change an entry, and so they do not change the canonical form.

`StoredForm.Canonical` collects what this amounts to. Apart from the entries it has one source: what
is written is read. This is shown of diagnostics, of their codes and of components
(`storedForms_canonical`).
-/

namespace Netlist

/-- How values of a type are kept as JSON. -/
structure StoredForm (α : Type) where
  write : α → Json
  read? : Json → Option α

/-- The canonical form of what a value stands for: it is read, and written again. -/
def StoredForm.canonical? {α : Type} (f : StoredForm α) (x : Json) : Option Json :=
  (f.read? x).map f.write

namespace Json

/-- A member that an object can have when it stands for a record. -/
structure Member where
  name : String
  /-- The value that says as much as leaving the member out; without one, it must be there. -/
  blank : Option Json

/-- What an object says about a member: the value that is there, or else the blank one. -/
def entry (members : List (String × Json)) (m : Member) : Option Json :=
  (members.lookup m.name).or m.blank

/-- Two objects say the same about the members of a record. -/
def SameEntries (record : List Member) (members members' : List (String × Json)) : Prop :=
  ∀ m ∈ record, entry members m = entry members' m

end Json

open Json (Member entry SameEntries)

/-- **A stored form is canonical** for objects with these members. What is written is read, and no
two values are written alike. Whatever else can be read says the same as its canonical form, which
is its own canonical form, and which it shares with exactly those that are read as it is. An object
in particular keeps its canonical form if it gets a member that the record does not have, if it gets
a blank one for a member it has left out, and if its members are put in another order. -/
structure StoredForm.Canonical {α : Type} (f : StoredForm α) (record : List Member) : Prop where
  read_write : ∀ a, f.read? (f.write a) = some a
  read_canonical : ∀ x, (f.canonical? x).bind f.read? = f.read? x
  write_injective : Function.Injective f.write
  stable : ∀ x y, f.canonical? x = some y → f.canonical? y = some y
  same_iff : ∀ x y, f.canonical? x = f.canonical? y ↔ f.read? x = f.read? y
  unknown : ∀ front back name x, (∀ m ∈ record, m.name ≠ name) →
    f.canonical? (.object (front ++ (name, x) :: back)) = f.canonical? (.object (front ++ back))
  omitted : ∀ front back, ∀ m ∈ record, ∀ x, m.blank = some x →
    m.name ∉ (front ++ back).map Prod.fst →
      f.canonical? (.object (front ++ (m.name, x) :: back)) = f.canonical? (.object (front ++ back))
  reordered : ∀ members members', members.Perm members' → (members.map Prod.fst).Nodup →
    f.canonical? (.object members) = f.canonical? (.object members')

/-! ### What an object says -/

namespace Json

variable {α : Type} {record : List Member} {front back members members' : List (String × Json)}

/-- A field of an object is read from what the object says about it. -/
theorem field?_object {f : Field α} {name : String} (blank : Option Json)
    (h : blank.bind f.read = f.unnamed) (members : List (String × Json)) (size i : Nat) :
    field? (.object members) name size i f = (entry members ⟨name, blank⟩).bind f.read := by
  unfold field? entry
  cases hlookup : members.lookup name with
  | none =>
    simp only [hlookup]
    rw [Option.none_or, h]
  | some x =>
    simp only [hlookup]
    rfl

/-- A pair in an object matters to nothing but its own name. -/
theorem lookup_insert_of_ne {name other : String} {x : Json} (h : other ≠ name) :
    (front ++ (name, x) :: back).lookup other = (front ++ back).lookup other := by
  have hskip : ((name, x) :: back).lookup other = back.lookup other := by
    rw [List.lookup_cons, beq_eq_false_iff_ne.2 h]
  rw [List.lookup_append, List.lookup_append, hskip]

/-- A member that the record does not have changes no entry. -/
theorem sameEntries_unknown {name : String} {x : Json} (h : ∀ m ∈ record, m.name ≠ name) :
    SameEntries record (front ++ (name, x) :: back) (front ++ back) := by
  intro m hm
  rw [entry, entry, lookup_insert_of_ne (h m hm)]

/-- A blank member changes no entry if there is no other of its name. -/
theorem sameEntries_omitted (hnodup : (record.map Member.name).Nodup) {m : Member} (hm : m ∈ record)
    {x : Json} (hblank : m.blank = some x) (hnew : m.name ∉ (front ++ back).map Prod.fst) :
    SameEntries record (front ++ (m.name, x) :: back) (front ++ back) := by
  intro other hother
  by_cases hname : other.name = m.name
  · obtain rfl : other = m := List.inj_on_of_nodup_map hnodup hother hm hname
    -- nothing in front hides the member, and without it the entry is the blank value as well
    have hfront : front.lookup other.name = none := by
      refine lookup_eq_none_iff_not_mem.2 fun h => hnew ?_
      rw [List.map_append]
      exact List.mem_append_left _ h
    rw [entry, entry, lookup_eq_none_iff_not_mem.2 hnew, List.lookup_append, hfront, Option.none_or,
      List.lookup_cons_self, Option.none_or, hblank, Option.some_or]
  · rw [entry, entry, lookup_insert_of_ne hname]

/-- The order of members changes no entry, as long as their names differ. -/
theorem sameEntries_reordered (hperm : members.Perm members')
    (hnodup : (members.map Prod.fst).Nodup) : SameEntries record members members' := by
  intro m _
  rw [entry, entry, lookup_eq_of_perm hperm hnodup]

end Json

/-- A stored form is canonical if what is written is read, and if objects with the same entries are
read alike. -/
theorem StoredForm.canonical_of {α : Type} {f : StoredForm α} {record : List Member}
    (hread : ∀ a, f.read? (f.write a) = some a) (hnodup : (record.map Member.name).Nodup)
    (hentries : ∀ members members', SameEntries record members members' →
      f.read? (.object members) = f.read? (.object members')) : f.Canonical record := by
  -- reading undoes writing
  have hinjective : Function.Injective f.write := by
    intro a b hab
    have hboth := hread a
    rw [hab, hread b] at hboth
    exact (Option.some.inj hboth).symm
  have hcanonical : ∀ members members', SameEntries record members members' →
      f.canonical? (.object members) = f.canonical? (.object members') := by
    intro members members' h
    rw [canonical?, canonical?, hentries members members' h]
  constructor
  case read_write => exact hread
  case read_canonical =>
    intro x
    unfold canonical?
    cases f.read? x with
    | none => rfl
    | some a => exact hread a
  case write_injective => exact hinjective
  case stable =>
    intro x y hy
    obtain ⟨a, -, rfl⟩ := Option.map_eq_some_iff.1 hy
    rw [canonical?, hread, Option.map_some]
  case same_iff => exact fun x y => (Option.map_injective hinjective).eq_iff
  case unknown =>
    exact fun _ _ _ _ hname => hcanonical _ _ (Json.sameEntries_unknown hname)
  case omitted =>
    exact fun _ _ _ hm _ hblank hnew =>
      hcanonical _ _ (Json.sameEntries_omitted hnodup hm hblank hnew)
  case reordered =>
    exact fun _ _ hperm hnames => hcanonical _ _ (Json.sameEntries_reordered hperm hnames)

/-! ### The parts of a record -/

namespace Json

variable {α : Type} {front back members members' : List (String × Json)}

/-- A field is read alike from objects that say the same about it. -/
theorem field?_congr {f : Field α} {name : String} (blank : Option Json)
    (h : blank.bind f.read = f.unnamed) (size i : Nat)
    (hsame : entry members ⟨name, blank⟩ = entry members' ⟨name, blank⟩) :
    field? (.object members) name size i f = field? (.object members') name size i f := by
  rw [field?_object blank h, field?_object blank h, hsame]

/-- A field is read from what the object says about it. -/
theorem field?_eq_some {f : Field α} {name : String} (blank : Option Json) (x : Json)
    (h : blank.bind f.read = f.unnamed) {size i : Nat} {a : α}
    (hentry : entry members ⟨name, blank⟩ = some x) (hread : f.read x = some a) :
    field? (.object members) name size i f = some a := by
  rw [field?_object blank h, hentry]
  exact hread

/-- A member matters to no other field than its own. -/
theorem field?_insert_of_ne {f : Field α} {name other : String} (h : other ≠ name) {x : Json}
    (size i : Nat) : field? (.object (front ++ (name, x) :: back)) other size i f =
      field? (.object (front ++ back)) other size i f := by
  unfold field?
  simp only [lookup_insert_of_ne h]

/-- A member can be exchanged for one that is read alike. -/
theorem field?_exchange {f : Field α} {name : String} {x y : Json} (h : f.read x = f.read y)
    (size i : Nat) : field? (.object (front ++ (name, x) :: back)) name size i f =
      field? (.object (front ++ (name, y) :: back)) name size i f := by
  unfold field?
  simp only [List.lookup_append, List.lookup_cons_self]
  -- a member of the name that is further in front hides both
  cases front.lookup name with
  | none => exact h
  | some z => rfl

theorem asListOf?_strings (xs : List String) : asListOf? asString? (.strings xs) = some xs :=
  mapM_map_eq_some fun _ _ => rfl

end Json

theorem Severity.ofJson?_toJson (s : Severity) : Severity.ofJson? s.toJson = some s := by
  cases s <;> rfl

theorem Category.ofJson?_toJson (c : Category) : Category.ofJson? c.toJson = some c := by
  cases c <;> rfl

/-! ### Codes -/

namespace DiagnosticCode

/-- The stored form of codes. -/
def stored : StoredForm DiagnosticCode := ⟨toJson, ofJson?⟩

/-- What a stored code consists of. -/
def record : List Member := [⟨"category", none⟩, ⟨"number", none⟩]

/-- The number of a code is read as it was written, since it fits into two bytes. -/
theorem numberOfJson?_nat (n : UInt16) : numberOfJson? (.nat n.toNat) = some n := by
  have hbelow : (Json.nat n.toNat).asNatBelow? UInt16.size = some n.toNat :=
    if_pos n.toNat_lt_size
  rw [numberOfJson?, hbelow, Option.map_some, UInt16.ofNat_toNat]

/-- A code is read as it was written. -/
theorem ofJson?_toJson (c : DiagnosticCode) : ofJson? c.toJson = some c := by
  have hcategory : c.toJson.field? "category" 2 0 (.required Category.ofJson?) = some c.category :=
    Category.ofJson?_toJson c.category
  have hnumber : c.toJson.field? "number" 2 1 (.required numberOfJson?) = some c.number :=
    numberOfJson?_nat c.number
  rw [ofJson?, hcategory, hnumber]
  rfl

theorem stored_canonical : stored.Canonical record := by
  refine StoredForm.canonical_of ofJson?_toJson (by decide) fun members members' h => ?_
  simp only [record, SameEntries, List.forall_mem_cons] at h
  obtain ⟨hcategory, hnumber, -⟩ := h
  show ofJson? _ = ofJson? _
  rw [ofJson?, ofJson?, Json.field?_congr none rfl 2 0 hcategory,
    Json.field?_congr none rfl 2 1 hnumber]

end DiagnosticCode

/-! ### Diagnostics -/

namespace Diagnostic

/-- The stored form of diagnostics. -/
def stored : StoredForm Diagnostic := ⟨toJson, ofJson?⟩

/-- What a stored diagnostic consists of. A subject may be null, notes and help may be empty. -/
def record : List Member :=
  [⟨"severity", none⟩, ⟨"code", none⟩, ⟨"message", none⟩, ⟨"subject", some .null⟩,
    ⟨"notes", some (.strings [])⟩, ⟨"help", some (.strings [])⟩]

/-- A diagnostic is read as it was written, with what was left out put back. -/
theorem ofJson?_toJson (d : Diagnostic) : ofJson? d.toJson = some d := by
  have hseverity : d.toJson.field? "severity" 6 0 (.required Severity.ofJson?) = some d.severity :=
    Severity.ofJson?_toJson d.severity
  have hcode : d.toJson.field? "code" 6 1 (.required DiagnosticCode.ofJson?) = some d.code :=
    DiagnosticCode.ofJson?_toJson d.code
  have hmessage : d.toJson.field? "message" 6 2 (.required Json.asString?) = some d.message := rfl
  -- the other three are not written if there is nothing to say, but there always is an entry
  have hsubject : d.toJson.field? "subject" 6 3 .optionalString = some d.subject := by
    obtain ⟨severity, code, message, subject, notes, help⟩ := d
    cases subject <;> cases notes <;> cases help <;> rfl
  have hnotes : d.toJson.field? "notes" 6 4 (.withDefault [] (Json.asListOf? Json.asString?)) =
      some d.notes := by
    refine Json.field?_eq_some (some (.strings [])) (.strings d.notes) rfl ?_
      (Json.asListOf?_strings d.notes)
    obtain ⟨severity, code, message, subject, notes, help⟩ := d
    cases subject <;> cases notes <;> cases help <;> rfl
  have hhelp : d.toJson.field? "help" 6 5 (.withDefault [] (Json.asListOf? Json.asString?)) =
      some d.help := by
    refine Json.field?_eq_some (some (.strings [])) (.strings d.help) rfl ?_
      (Json.asListOf?_strings d.help)
    obtain ⟨severity, code, message, subject, notes, help⟩ := d
    cases subject <;> cases notes <;> cases help <;> rfl
  rw [ofJson?, hseverity, hcode, hmessage, hsubject, hnotes, hhelp]
  rfl

theorem stored_canonical : stored.Canonical record := by
  refine StoredForm.canonical_of ofJson?_toJson (by decide) fun members members' h => ?_
  simp only [record, SameEntries, List.forall_mem_cons] at h
  obtain ⟨hseverity, hcode, hmessage, hsubject, hnotes, hhelp, -⟩ := h
  show ofJson? _ = ofJson? _
  -- field by field, each with the value that leaving it out stands for
  rw [ofJson?, ofJson?, Json.field?_congr none rfl 6 0 hseverity,
    Json.field?_congr none rfl 6 1 hcode, Json.field?_congr none rfl 6 2 hmessage,
    Json.field?_congr (some .null) rfl 6 3 hsubject,
    Json.field?_congr (some (.strings [])) rfl 6 4 hnotes,
    Json.field?_congr (some (.strings [])) rfl 6 5 hhelp]

/-- The code of a diagnostic can be given in any of its forms. -/
theorem canonical?_code {x y : Json}
    (h : DiagnosticCode.stored.canonical? x = DiagnosticCode.stored.canonical? y)
    (front back : List (String × Json)) :
    stored.canonical? (.object (front ++ ("code", x) :: back)) =
      stored.canonical? (.object (front ++ ("code", y) :: back)) := by
  have hread : DiagnosticCode.ofJson? x = DiagnosticCode.ofJson? y :=
    (DiagnosticCode.stored_canonical.same_iff x y).1 h
  -- the code's own field is read alike, and the other five do not see the difference
  have hsame : ofJson? (.object (front ++ ("code", x) :: back)) =
      ofJson? (.object (front ++ ("code", y) :: back)) := by
    unfold ofJson?
    rw [Json.field?_exchange hread 6 1]
    simp only [Json.field?_insert_of_ne (show "severity" ≠ "code" by decide),
      Json.field?_insert_of_ne (show "message" ≠ "code" by decide),
      Json.field?_insert_of_ne (show "subject" ≠ "code" by decide),
      Json.field?_insert_of_ne (show "notes" ≠ "code" by decide),
      Json.field?_insert_of_ne (show "help" ≠ "code" by decide)]
  exact congrArg (Option.map toJson) hsame

end Diagnostic

/-! ### Components -/

namespace Component

/-- The stored form of components. -/
def stored : StoredForm Component := ⟨toJson, ofJson?⟩

/-- What a stored component consists of. Documentation may be left out. -/
def record : List Member :=
  [⟨"name", none⟩, ⟨"input_ports", none⟩, ⟨"output_ports", none⟩,
    ⟨"documentation", some (.string "")⟩]

/-- A component is read as it was written. -/
theorem ofJson?_toJson (c : Component) : ofJson? c.toJson = some c := by
  have hname : c.toJson.field? "name" 4 0 (.required Json.asString?) = some c.name := rfl
  have hinputs : c.toJson.field? "input_ports" 4 1 (.required (Json.asListOf? Json.asString?)) =
      some c.inputPorts := Json.asListOf?_strings c.inputPorts
  have houtputs : c.toJson.field? "output_ports" 4 2 (.required (Json.asListOf? Json.asString?)) =
      some c.outputPorts := Json.asListOf?_strings c.outputPorts
  have hdocumentation : c.toJson.field? "documentation" 4 3 (.withDefault "" Json.asString?) =
      some c.documentation := rfl
  rw [ofJson?, hname, hinputs, houtputs, hdocumentation]
  rfl

theorem stored_canonical : stored.Canonical record := by
  refine StoredForm.canonical_of ofJson?_toJson (by decide) fun members members' h => ?_
  simp only [record, SameEntries, List.forall_mem_cons] at h
  obtain ⟨hname, hinputs, houtputs, hdocumentation, -⟩ := h
  show ofJson? _ = ofJson? _
  rw [ofJson?, ofJson?, Json.field?_congr none rfl 4 0 hname,
    Json.field?_congr none rfl 4 1 hinputs, Json.field?_congr none rfl 4 2 houtputs,
    Json.field?_congr (some (.string "")) rfl 4 3 hdocumentation]

end Component

/-! ### The law -/

/-- **Stored forms are canonical.** Diagnostics, their codes and components come back from the JSON
they are written as, whatever their texts and however long their lists. Whatever else is read as one
of them is read again from its canonical form: members that the record does not have are dropped, a
subject that is null, notes or help that are empty and documentation that is empty may as well be
left out, and members may come in any order. In a diagnostic this holds of the members of its code,
too. -/
theorem storedForms_canonical :
    Diagnostic.stored.Canonical Diagnostic.record ∧
      DiagnosticCode.stored.Canonical DiagnosticCode.record ∧
      (∀ front back x y, DiagnosticCode.stored.canonical? x = DiagnosticCode.stored.canonical? y →
        Diagnostic.stored.canonical? (.object (front ++ ("code", x) :: back)) =
          Diagnostic.stored.canonical? (.object (front ++ ("code", y) :: back))) ∧
      Component.stored.Canonical Component.record :=
  ⟨Diagnostic.stored_canonical, DiagnosticCode.stored_canonical,
    fun front back _ _ h => Diagnostic.canonical?_code h front back, Component.stored_canonical⟩

/-- A diagnostic with its members in disorder, a null subject, an empty list of notes, no help, and
members that mean nothing, also in its code. -/
def untidyDiagnostic : Json :=
  .object [("since", .nat 1), ("message", .string "odd"), ("notes", .array []), ("subject", .null),
    ("code", .object [("number", .nat 7), ("colour", .null), ("category", .string "Warning")]),
    ("severity", .string "note")]

/-- It is read as the diagnostic with nothing but a message, and its canonical form is the one of
that diagnostic, which stays as it is. -/
theorem storedForms_canonical_untidy :
    Diagnostic.ofJson? untidyDiagnostic = some (.plain .note ⟨.warning, 7⟩ "odd") ∧
      Diagnostic.stored.canonical? untidyDiagnostic =
        some (Diagnostic.plain .note ⟨.warning, 7⟩ "odd").toJson ∧
      Diagnostic.stored.canonical? (Diagnostic.plain .note ⟨.warning, 7⟩ "odd").toJson =
        some (Diagnostic.plain .note ⟨.warning, 7⟩ "odd").toJson := by
  have hread : Diagnostic.ofJson? untidyDiagnostic = some (.plain .note ⟨.warning, 7⟩ "odd") := rfl
  -- reading is all that has to be evaluated; the rest follows from what was read
  have hcanonical : Diagnostic.stored.canonical? untidyDiagnostic =
      some (Diagnostic.plain .note ⟨.warning, 7⟩ "odd").toJson :=
    congrArg (Option.map Diagnostic.toJson) hread
  exact ⟨hread, hcanonical, storedForms_canonical.1.stable _ _ hcanonical⟩

end Netlist
