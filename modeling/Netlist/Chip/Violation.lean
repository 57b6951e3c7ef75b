import Netlist.Chip.Basic

/-!
# Incomplete nets

A chip can be emitted when every net has both of its ends. `Chip.violations` lists the nets that
have not, in the order of their creation, each with the ends it lacks; a violation becomes one
diagnostic for each missing end.
-/

namespace Netlist

/-- A net that lacks an end. -/
structure Violation where
  net : String
  netId : NetId
  kind : NetKind
  /-- The ends it lacks, driver first. -/
  missing : List Slot
deriving DecidableEq, Repr

namespace Violation

/-- The violation in words. -/
def text (v : Violation) : String :=
  match v.missing with
  -- a net that lacks neither end is never a violation, so two ends are the other case
  | [slot] => s!"{v.kind.text} `{v.net}` has no {slot.text}"
  | _ => s!"{v.kind.text} `{v.net}` has no driver and no load"

/-- The number of the code for a missing end. -/
def codeNumber : Slot → UInt16
  | .driver => 300
  | .load => 301

/-- What helps against a missing end. -/
def helpText : Slot → String
  | .driver => "connect it to an output port of some instance"
  | .load => "connect it to an input port of some instance"

/-- The diagnostic for one missing end. -/
def diagnosticFor (v : Violation) (slot : Slot) : Diagnostic :=
  ((Diagnostic.error (codeNumber slot) s!"{v.kind.text} `{v.net}` has no {slot.text}").withSubject
    v.net).withHelp (helpText slot)

/-- **One diagnostic for each missing end.** -/
def toDiagnostics (v : Violation) : List Diagnostic :=
  v.missing.map v.diagnosticFor

end Violation

namespace Chip

/-- What a net of the chip lacks. -/
def violationOf (c : Chip) (n : Net) : Violation where
  net := c.nameOf n
  netId := n.id
  kind := n.kind
  missing := n.missingSlots

/-- **The incomplete nets**, oldest first. -/
def violations (c : Chip) : List Violation :=
  -- the order of nets is that of their creation
  (c.nets.toList.filter fun n => !n.isComplete).map c.violationOf

/-- Does every net have both ends? -/
def isComplete (c : Chip) : Bool :=
  c.nets.toList.all Net.isComplete

/-- What a check of the chip reports. -/
def violationEvents (c : Chip) : List Event :=
  c.violations.map fun v => .netIncomplete c.name v.net v.text

/-- A chip has no violations exactly if it is complete. -/
theorem violations_eq_nil_iff {c : Chip} : c.violations = [] ↔ c.isComplete = true := by
  simp [violations, isComplete]

end Chip

end Netlist
