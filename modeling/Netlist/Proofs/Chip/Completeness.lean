import Mathlib.Data.List.Sublists
import Netlist.Chip.Violation
import Netlist.Proofs.Chip.Namespace
import Netlist.Proofs.Chip.Wiring

/-!
# What is reported of an incomplete net

The ends of a net are read four times over: to tell whether the net is complete, to list the ends it
lacks, to say so in words, and to make diagnostics of it. `Net.isComplete` asks for both ends,
`Net.missingSlots` filters them, the words of a violation know two shapes of the list and say `no
driver and no load` for every other one, and the diagnostics go through the list.

They agree because a violation has one of three lists (`missingSlots_cases`): never the empty one,
for which the words would be wrong, and neither a list in another order nor one with an end twice.
`Violation.Reports` says what a violation tells of its net, and `Reachable.tellsMissing` that
the violations of a chip are those of its incomplete nets, one each, in the order of creation.
-/

namespace Netlist

/-! ### The ends that are missing -/

namespace Net

variable {n : Net} {s : Slot}

/-- The missing ends are those that nobody holds. -/
theorem mem_missingSlots_iff : s ∈ n.missingSlots ↔ n.endpoint s = none := by
  have hall : s ∈ Slot.all := by cases s <;> decide
  rw [missingSlots, List.mem_filter, Option.isNone_iff_eq_none]
  exact and_iff_right hall

/-- No end is listed twice, and the driver is listed first. -/
theorem missingSlots_sublist (n : Net) : n.missingSlots.Sublist Slot.all :=
  List.filter_sublist

/-- An incomplete net lacks its driver, its load or both. -/
theorem missingSlots_cases (h : n.missingSlots ≠ []) :
    n.missingSlots = [.driver] ∨ n.missingSlots = [.load] ∨ n.missingSlots = Slot.all := by
  -- what is missing is a part of two ends, so there are four lists, and one is excluded
  have hlists : n.missingSlots ∈ Slot.all.sublists :=
    List.mem_sublists.2 n.missingSlots_sublist
  have hall : Slot.all.sublists = [[], [.driver], [.load], Slot.all] := by decide
  rw [hall] at hlists
  simpa [h] using hlists

/-- The end that the outside holds is not missing, so a boundary net can only lack the other. -/
theorem missingSlots_of_outerEnd? {kind : NetKind} (hkind : n.kind = kind) {outer inner : Slot}
    (houter : kind.outerEnd? = some outer) (hne : outer ≠ inner) (h : n.missingSlots ≠ []) :
    n.missingSlots = [inner] := by
  -- the outside never lets go of its end
  have hheld : outer ∉ n.missingSlots := by
    rw [mem_missingSlots_iff, endpoint_eq_external_iff.2 (hkind ▸ houter)]
    exact Option.some_ne_none _
  rcases missingSlots_cases h with hmissing | hmissing | hmissing <;> rw [hmissing] at hheld ⊢ <;>
    cases outer <;> cases inner <;> simp_all [Slot.all]

end Net

/-! ### Words and diagnostics -/

namespace Violation

/-- What is said of one missing end. -/
def phrase (s : Slot) : String :=
  s!"no {s.text}"

/-- What is said of all missing ends, in their order. -/
def phrases (v : Violation) : String :=
  " and ".intercalate (v.missing.map phrase)

/-- **A diagnostic for one missing end** of the net of a violation. -/
structure Diagnoses (v : Violation) (s : Slot) (d : Diagnostic) : Prop where
  severity : d.severity = .error
  code : d.code.text = match s with
    | .driver => "E300"
    | .load => "E301"
  subject : d.subject = some v.net
  message : d.message = s!"{v.kind.text} `{v.net}` has {phrase s}"

/-- **What a violation tells of a net.** -/
structure Reports (c : Chip) (v : Violation) (n : Net) : Prop where
  net? : c.net? v.netId = some n
  net : v.net = c.netName v.netId
  kind : v.kind = n.kind
  /-- What is missing are the ends that nobody holds. -/
  mem_missing_iff : ∀ s, s ∈ v.missing ↔ n.endpoint s = none
  missing_ne_nil : v.missing ≠ []
  /-- No end is listed twice, and the driver is listed first. -/
  missing_sublist : v.missing.Sublist [.driver, .load]
  boundaryInput : v.kind = .boundaryInput → v.missing = [.load]
  boundaryOutput : v.kind = .boundaryOutput → v.missing = [.driver]
  /-- The words name the missing ends, all of them and no other. -/
  text : v.text = s!"{v.kind.text} `{v.net}` has {v.phrases}"
  /-- There is one diagnostic for each missing end, in the same order. -/
  diagnostics : List.Forall₂ v.Diagnoses v.missing v.toDiagnostics
  /-- If only one end is missing, its diagnostic says what the violation says. -/
  message_eq_text : ∀ s, v.missing = [s] → v.toDiagnostics.map Diagnostic.message = [v.text]

/-- The diagnostic for an end says of the net what the violation says of it. -/
theorem diagnoses (v : Violation) (s : Slot) : v.Diagnoses s (v.diagnosticFor s) where
  severity := rfl
  code := by
    cases s with
    | driver => exact (by decide : DiagnosticCode.text ⟨.error, 300⟩ = "E300")
    | load => exact (by decide : DiagnosticCode.text ⟨.error, 301⟩ = "E301")
  subject := rfl
  message := by
    have hsplit : "` has no " = "` has " ++ "no " := by decide
    change v.kind.text ++ " `" ++ v.net ++ "` has no " ++ s.text =
      v.kind.text ++ " `" ++ v.net ++ "` has " ++ ("no " ++ s.text)
    rw [hsplit]
    simp only [String.append_assoc]

/-- The diagnostics follow the missing ends one by one. -/
theorem forall₂_diagnoses (v : Violation) : List.Forall₂ v.Diagnoses v.missing v.toDiagnostics :=
  List.forall₂_map_right_iff.2 (List.forall₂_same.2 fun s _ => v.diagnoses s)

variable {v : Violation}

/-- The words name what is missing, whichever of the three lists it is. -/
theorem text_eq (h : v.missing = [.driver] ∨ v.missing = [.load] ∨ v.missing = Slot.all) :
    v.text = s!"{v.kind.text} `{v.net}` has {v.phrases}" := by
  -- the words have two shapes, and the second is the right one for two ends only
  rcases h with h | h | h <;> rw [text, phrases, h]
  · exact (v.diagnoses .driver).message
  · exact (v.diagnoses .load).message
  · have hsplit : "` has no driver and no load" = "` has " ++ "no driver and no load" := by decide
    change v.kind.text ++ " `" ++ v.net ++ "` has no driver and no load" =
      v.kind.text ++ " `" ++ v.net ++ "` has " ++ "no driver and no load"
    rw [hsplit, ← String.append_assoc]

/-- With one end missing, the words of the violation are the message of its diagnostic. -/
theorem message_eq_text {s : Slot} (h : v.missing = [s]) :
    v.toDiagnostics.map Diagnostic.message = [v.text] := by
  rw [toDiagnostics, text, h]
  rfl

end Violation

namespace Chip

/-! ### The violations of a chip -/

/-- There is a violation for a net exactly if an end of it is missing. -/
theorem mem_violations_iff {c : Chip} {v : Violation} :
    v ∈ c.violations ↔ ∃ n ∈ c.nets.toList, n.missingSlots ≠ [] ∧ c.violationOf n = v := by
  rw [violations, List.mem_map]
  refine exists_congr fun n => ?_
  rw [List.mem_filter, Bool.not_eq_true', ← Bool.not_eq_true, Net.isComplete_iff, and_assoc]

/-- The violation of an incomplete net reports this net. -/
theorem reports_violationOf {c : Chip} {n : Net} (hnet : c.net? n.id = some n)
    (hmissing : n.missingSlots ≠ []) : (c.violationOf n).Reports c n where
  net? := hnet
  net := (netName_eq hnet).symm
  kind := rfl
  mem_missing_iff _ := Net.mem_missingSlots_iff
  missing_ne_nil := hmissing
  missing_sublist := n.missingSlots_sublist
  boundaryInput hkind := Net.missingSlots_of_outerEnd? hkind rfl (by decide) hmissing
  boundaryOutput hkind := Net.missingSlots_of_outerEnd? hkind rfl (by decide) hmissing
  text := Violation.text_eq (Net.missingSlots_cases hmissing)
  diagnostics := (c.violationOf n).forall₂_diagnoses
  message_eq_text _ := Violation.message_eq_text

/-- Violations stand in the order of the numbers of their nets. -/
theorem Wired.pairwise_violations {c : Chip} (h : c.Wired) :
    c.violations.Pairwise fun v v' => v.netId.index < v'.netId.index := by
  -- nets stand in the order of their numbers, and leaving some out does not change it
  have hids : (c.nets.toList.map Net.id).Pairwise fun id id' => id.index < id'.index := by
    rw [h.map_id_nets, List.pairwise_map]
    exact List.pairwise_lt_range
  rw [violations, List.pairwise_map]
  exact (List.pairwise_map.1 hids).filter _

/-- **The violations of a chip** tell what it lacks.

Each of them reports a net with an end that nobody holds. They come in the order in which the nets
were created, and there is one for every such net; so there is none at all exactly when all ends are
held. -/
structure TellsMissing (c : Chip) : Prop where
  reports : ∀ v ∈ c.violations, ∃ n, v.Reports c n
  ordered : c.violations.Pairwise fun v v' => v.netId.index < v'.netId.index
  reported_iff : ∀ {id n}, c.net? id = some n →
    ((∃ v ∈ c.violations, v.netId = id) ↔ ∃ s, n.endpoint s = none)
  eq_nil_iff : c.violations = [] ↔ ∀ id n s, c.net? id = some n → n.endpoint s ≠ none

/-- **The violations of a reachable chip tell what it lacks**, whatever has led to it. -/
theorem Reachable.tellsMissing {c : Chip} (h : c.Reachable) : c.TellsMissing := by
  have hreported : ∀ {id n}, c.net? id = some n →
      ((∃ v ∈ c.violations, v.netId = id) ↔ ∃ s, n.endpoint s = none) := by
    intro id n hn
    constructor
    · rintro ⟨v, hv, rfl⟩
      obtain ⟨m, hm, hmissing, rfl⟩ := mem_violations_iff.1 hv
      -- the number of a violation is that of its net, so the two are one
      obtain rfl : m = n := Option.some.inj ((h.wired.net?_id hm).symm.trans hn)
      obtain ⟨s, hs⟩ := List.exists_mem_of_ne_nil _ hmissing
      exact ⟨s, Net.mem_missingSlots_iff.1 hs⟩
    · rintro ⟨s, hs⟩
      have hmissing : n.missingSlots ≠ [] :=
        List.ne_nil_of_mem (Net.mem_missingSlots_iff.2 hs)
      have hmem : n ∈ c.nets.toList := Arena.mem_toList_iff.2 ⟨_, hn⟩
      exact ⟨_, mem_violations_iff.2 ⟨n, hmem, hmissing, rfl⟩, h.wired.net_id hn⟩
  refine ⟨fun v hv => ?_, h.wired.pairwise_violations, hreported, ?_⟩
  · obtain ⟨n, hn, hmissing, rfl⟩ := mem_violations_iff.1 hv
    exact ⟨n, reports_violationOf (h.wired.net?_id hn) hmissing⟩
  · constructor
    · intro hnil id n s hn hs
      obtain ⟨v, hv, -⟩ := (hreported hn).2 ⟨s, hs⟩
      exact List.ne_nil_of_mem hv hnil
    · intro hheld
      -- a violation would name an end that nobody holds
      refine List.eq_nil_iff_forall_not_mem.2 fun v hv => ?_
      obtain ⟨n, hn, hmissing, -⟩ := mem_violations_iff.1 hv
      obtain ⟨s, hs⟩ := List.exists_mem_of_ne_nil _ hmissing
      exact hheld _ n s (h.wired.net?_id hn) (Net.mem_missingSlots_iff.1 hs)

/-- With no instance, the input lacks its load, which is said once and the same in words and in a
diagnostic, and the wire lacks both ends; with the mixer no end is missing. -/
theorem tellsMissing_openChip : openChip.Reachable ∧ loopChip.Reachable ∧
    (∃ v ∈ openChip.violations, v.netId = ⟨0⟩ ∧
      v.toDiagnostics.map Diagnostic.message = [v.text]) ∧
    (∃ v ∈ openChip.violations, v.netId = ⟨2⟩ ∧
      v.text = "internal net `wire_2` has no driver and no load") ∧
    ∀ id n s, loopChip.net? id = some n → n.endpoint s ≠ none := by
  have hopen := openChip_reachable.tellsMissing
  have hinput : ⟨"a", ⟨0⟩, .boundaryInput, [.load]⟩ ∈ openChip.violations := by decide
  have hwire : ⟨"wire_2", ⟨2⟩, .internal, [.driver, .load]⟩ ∈ openChip.violations := by decide
  obtain ⟨_, hreportsInput⟩ := hopen.reports _ hinput
  obtain ⟨_, hreportsWire⟩ := hopen.reports _ hwire
  exact ⟨openChip_reachable, loopChip_reachable,
    ⟨_, hinput, rfl, hreportsInput.message_eq_text .load rfl⟩, ⟨_, hwire, rfl, hreportsWire.text⟩,
    loopChip_reachable.tellsMissing.eq_nil_iff.1 rfl⟩

end Chip

end Netlist
