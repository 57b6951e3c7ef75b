import Netlist.Component
import Netlist.Diagnostic
import Netlist.Net

/-!
# Construction errors

What can keep a net or an instance from being added to a chip. Every error has a message; all but
those that only a mistake inside this library can cause have a code of their own, and each becomes
a diagnostic about the name or net concerned.
-/

namespace Netlist

/-- Why a construction step was refused. -/
inductive NetlistError where
  | arityMismatch (component : String)
      (expectedInputs expectedOutputs gotInputs gotOutputs : Nat)
  | alreadyBound (net : String) (kind : NetKind) (slot : Slot) (holder : String)
  | duplicateName (requested existing : String)
  | invalidName (name reason : String)
  | unknownPort (component port : String)
  | duplicatePort (component port : String) (direction : PortDirection)
  | unconnectedPort (component port : String) (direction : PortDirection)
  /-- A net number that belongs to no net of the chip was passed in. -/
  | internal (message : String)
deriving DecidableEq, Repr

namespace NetlistError

/-- The error in words. -/
def message : NetlistError → String
  | arityMismatch component expectedInputs expectedOutputs gotInputs gotOutputs =>
    s!"`{component}` expects {expectedInputs} input(s) and {expectedOutputs} output(s), " ++
      s!"but {gotInputs} input(s) and {gotOutputs} output(s) were supplied"
  | alreadyBound net kind slot holder =>
    s!"{slot.text} of {kind.text} `{net}` is already bound to {holder}"
  | duplicateName requested existing =>
    s!"`{requested}` clashes with existing signal `{existing}`"
  | invalidName name reason => s!"`{name}` is not a valid signal name: {reason}"
  | unknownPort component port => s!"component `{component}` has no port named `{port}`"
  | duplicatePort component port direction =>
    s!"{direction.text} port `{port}` of `{component}` is connected more than once"
  | unconnectedPort component port direction =>
    s!"{direction.text} port `{port}` of `{component}` is not connected"
  | internal message => s!"internal error: {message}"

/-- The number of the error's code, if it has a code. -/
def codeNumber? : NetlistError → Option UInt16
  | arityMismatch .. => some 302
  | alreadyBound .. => some 303
  | duplicateName .. => some 304
  | invalidName .. => some 305
  | unknownPort .. => some 306
  | duplicatePort .. | unconnectedPort .. => some 307
  | internal _ => none

/-- The error's code, if it has one. -/
def code? (e : NetlistError) : Option DiagnosticCode :=
  e.codeNumber?.map fun number => ⟨.error, number⟩

/-- **The error as a diagnostic.** Errors without a code are reported as number zero. -/
def toDiagnostic (e : NetlistError) : Diagnostic :=
  let base := Diagnostic.error (e.codeNumber?.getD 0) e.message
  match e with
  | alreadyBound net .. =>
    (base.withSubject net).withNote "every net has exactly one driver and one load"
  | duplicateName requested _ =>
    (base.withSubject requested).withNote "each net also claims `<name>_stb` and `<name>_ack`"
  | invalidName name _ => base.withSubject name
  | internal _ => base.withNote "this is a bug in weft, please report it"
  | _ => base

end NetlistError

end Netlist
