import Netlist.Pattern.Reader
import Netlist.Pattern.Search
import Netlist.Trace

/-!
# Log filters

A filter says how detailed a log is to be. It is written as rules between commas:

* `debug` is about everything, and so is a rank such as `4`;
* `weft_netlist=debug` is about the areas of the program whose names begin like this;
* `[elaborate]=debug` is about all that happens within spans of this name, and
  `[elaborate{chip=t.p}]=debug` about those alone whose field holds what this pattern describes;
* `[{net}]=debug` is about events that have this field, and about all that happens within spans
  that have it.

An area may stand in front of the brackets. A rule about anything but everything may leave its level
out and then asks for every detail.

Two kinds of rules act on an event (`LogFilter.shows`). Of the *plain* rules, those that look at the
event itself, the most specific one decides. A rule about spans that the event happened in can only
add to that: it shows the event if the level reaches it.
-/

namespace Netlist

/-- What a field has to hold, as a filter says it. -/
structure FieldValue where
  written : String
  /-- The pattern of it. A truth value or a number has none: no text is the same. -/
  pattern : Option Pattern
deriving DecidableEq, Repr

/-- Does a text have the value? The first occurrence of the pattern has to reach to its end. -/
def FieldValue.isOf (v : FieldValue) (text : String) : Bool :=
  v.pattern.any fun p => p.findsEnd text.toList

/-- A condition on a field: that there is such a field, or also what it holds. -/
structure FieldTest where
  name : String
  value : Option FieldValue
deriving DecidableEq, Repr

/-- Does the field of a span pass the test? -/
def FieldTest.passes (t : FieldTest) (fields : List (String × String)) : Bool :=
  match fields.lookup t.name with
  | none => false
  | some held => t.value.all fun v => v.isOf held

/-- What a rule is about. Parts that are left out are not looked at. -/
structure LogScope where
  /-- How the name of the area begins. -/
  area : Option String
  span : Option String
  field : Option FieldTest
deriving DecidableEq, Repr

namespace LogScope

/-- The scope of everything. -/
def everything : LogScope := ⟨none, none, none⟩

/-- Does the scope look at events themselves? -/
def isPlain (s : LogScope) : Bool :=
  s.span.isNone && s.field.all fun t => t.value.isNone

/-- Does the scope look at the spans that events happen in? -/
def isOfSpans (s : LogScope) : Bool :=
  s.span.isSome || s.field.isSome

/-- Is the area within the scope? -/
def coversArea (s : LogScope) (area : String) : Bool :=
  s.area.all fun start => start.toList.isPrefixOf area.toList

/-- Is the event within a plain scope? -/
def coversEvent (s : LogScope) (e : Event) : Bool :=
  s.coversArea e.area && s.field.all fun t => e.hasField t.name

/-- Is the span one that the scope looks at? What its fields hold does not matter yet. -/
def coversSpan (s : LogScope) (span : LogSpan) : Bool :=
  s.coversArea span.area && s.span.all (· == span.name) &&
    s.field.all fun t => span.fields.any fun field => field.1 == t.name

/-- Do the fields of a span hold what the scope asks for? -/
def holdsIn (s : LogScope) (span : LogSpan) : Bool :=
  s.field.all fun t => t.passes span.fields

/-- How much of an area's name the scope fixes; a scope that names none comes last. -/
def areaRank (s : LogScope) : Nat :=
  s.area.elim 0 fun start => start.length + 1

/-- The name of the field that the scope asks for. A scope that asks for none comes last. -/
def fieldRank (s : LogScope) : List String :=
  (s.field.map (·.name)).toList

/-- Is a scope more specific than another? The longer area counts first, then the field. -/
def isCloserThan (s t : LogScope) : Bool :=
  t.areaRank < s.areaRank || (t.areaRank == s.areaRank && decide (t.fieldRank < s.fieldRank))

end LogScope

/-- How detailed the log is to be about something. -/
structure LogRule where
  scope : LogScope
  /-- The most detailed level to be shown of it. -/
  threshold : LogThreshold
deriving DecidableEq, Repr

/-- The rules that a log goes by. No two of them are about the same. -/
structure LogFilter where
  rules : List LogRule
deriving DecidableEq, Repr

namespace LogFilter

/-- Adds a rule. It replaces the rule about the same, if there is one. -/
def insert (f : LogFilter) (rule : LogRule) : LogFilter where
  rules := f.rules.filter (fun r => r.scope != rule.scope) ++ [rule]

/-- The filter that shows everything up to a level. -/
def upTo (threshold : LogThreshold) : LogFilter := ⟨[⟨.everything, threshold⟩]⟩

/-- The filter that a list of rules makes. Without any rule, only errors are shown. -/
def ofRules (rules : List LogRule) : LogFilter :=
  if rules.isEmpty then upTo LogLevel.error.rank else rules.foldl insert ⟨[]⟩

/-- What the most specific of some rules asks for. Without any, nothing is shown. -/
def decided (rules : List LogRule) : LogThreshold :=
  -- of two that are equally close, the earlier one stays
  let closest := rules.foldl (fun best rule =>
    match best with
    | none => some rule
    | some b => if rule.scope.isCloserThan b.scope then some rule else some b) none
  closest.elim 0 (·.threshold)

/-- The plain rules. -/
def plain (f : LogFilter) : List LogRule :=
  f.rules.filter fun r => r.scope.isPlain

/-- The rules that look at a span. -/
def aboutSpan (f : LogFilter) (span : LogSpan) : List LogRule :=
  f.rules.filter fun r => r.scope.isOfSpans && r.scope.coversSpan span

/-- **Does the log show a span?** It does if a rule looks at spans like it, and otherwise if its
area is shown in enough detail; plain rules do not look at the fields of spans. -/
def showsSpan (f : LogFilter) (span : LogSpan) : Bool :=
  -- a rule may look at a span whose events it then does not show
  !(f.aboutSpan span).isEmpty ||
    decide (span.level.rank ≤ decided (f.plain.filter fun r => r.scope.coversArea span.area))

/-- **Does the log show an event?** -/
def shows (f : LogFilter) (e : Event) : Bool :=
  decide (e.level.rank ≤ decided (f.plain.filter fun r => r.scope.coversEvent e)) ||
    e.spans.any fun span => (f.aboutSpan span).any fun r =>
      r.scope.holdsIn span && decide (e.level.rank ≤ r.threshold)

/-- **The event as a line of the log.** -/
def line (f : LogFilter) (e : Event) : String :=
  e.lineWithin (e.spans.filter f.showsSpan)

/-- A filter with one rule about everything looks at the level alone. -/
@[simp] theorem shows_upTo (threshold : LogThreshold) (e : Event) :
    (upTo threshold).shows e = decide (e.level.rank ≤ threshold) := by
  simp [shows, plain, aboutSpan, upTo, decided, LogScope.everything, LogScope.isPlain,
    LogScope.isOfSpans, LogScope.coversEvent, LogScope.coversArea]

/-- Rules about different things stay so when one is added. -/
theorem nodup_scopes_insert {f : LogFilter} (h : (f.rules.map (·.scope)).Nodup) (rule : LogRule) :
    ((f.insert rule).rules.map (·.scope)).Nodup := by
  have hkept : ((f.rules.filter fun r => r.scope != rule.scope).map (·.scope)).Nodup :=
    h.sublist (List.filter_sublist.map _)
  simp only [insert, List.map_append, List.map_cons, List.map_nil]
  refine List.nodup_append.mpr ⟨hkept, by simp, ?_⟩
  intro a ha b hb
  obtain ⟨r, hr, rfl⟩ := List.mem_map.mp ha
  obtain rfl := List.mem_singleton.mp hb
  simpa using (List.mem_filter.mp hr).2

/-- **No two rules of a filter are about the same**, however often the list that it is made of says
something about a scope. -/
theorem nodup_scopes_ofRules (rules : List LogRule) :
    ((ofRules rules).rules.map (·.scope)).Nodup := by
  -- the rules are added one by one, so a filter that has some already has to be looked at
  have hadded : ∀ f : LogFilter, (f.rules.map (·.scope)).Nodup →
      ((rules.foldl insert f).rules.map (·.scope)).Nodup := by
    induction rules with
    | nil => exact fun _ h => h
    | cons rule rest ih => exact fun f h => ih _ (nodup_scopes_insert h rule)
  unfold ofRules
  split
  · exact List.nodup_cons.2 ⟨List.not_mem_nil, List.nodup_nil⟩
  · exact hadded ⟨[]⟩ List.nodup_nil

end LogFilter

/-! ### Reading filters -/

namespace LogThreshold

/-- The names of the thresholds. -/
def names : List (String × LogThreshold) :=
  ("off", 0) :: [LogLevel.error, .warn, .info, .debug, .trace].map fun l => (l.text.toLower, l.rank)

/-- A threshold by its name, in which capitals do not matter, or by its rank, which may have a plus
sign in front. -/
def ofChars? (cs : List Char) : Option LogThreshold :=
  let digits := match cs with
    | '+' :: rest => rest
    | _ => cs
  if !digits.isEmpty && digits.all Char.isDigit then
    let rank := digits.foldl (fun n d => 10 * n + (d.toNat - '0'.toNat)) 0
    if rank ≤ LogLevel.trace.rank then some rank else none
  else
    names.lookup (String.ofList cs).toLower

/-- A threshold that may be left out. -/
def ofCharsOrAll? (cs : List Char) : Option LogThreshold :=
  if cs.isEmpty then some LogLevel.trace.rank else ofChars? cs

end LogThreshold

/-- Is this a number with a decimal point or an exponent, perhaps with a sign? -/
def isDecimal (cs : List Char) : Bool :=
  let unsigned := match cs with
    | '+' :: rest => rest
    | '-' :: rest => rest
    | _ => cs
  let whole := unsigned.takeWhile Char.isDigit
  let (fraction, rest) := match unsigned.drop whole.length with
    | '.' :: rest => (rest.takeWhile Char.isDigit, rest.dropWhile Char.isDigit)
    | rest => ([], rest)
  let exponent := match rest with
    | [] => true
    | mark :: rest =>
      let digits := match rest with
        | '+' :: rest => rest
        | '-' :: rest => rest
        | _ => rest
      (mark == 'e' || mark == 'E') && !digits.isEmpty && digits.all Char.isDigit
  -- these have no digits, but count as numbers
  let special := ["inf", "infinity", "nan"].contains (String.ofList unsigned).toLower
  special || (!(whole ++ fraction).isEmpty && exponent)

/-- Reads what a field has to hold: a truth value, a number, or else a pattern. -/
def FieldValue.ofChars? (cs : List Char) : Option FieldValue :=
  let written := String.ofList cs
  if written == "true" || written == "false" || isDecimal cs then some ⟨written, none⟩
  else (Pattern.ofChars? cs).map fun p => ⟨written, some p⟩

/-- Reads the test that stands between braces: a name, perhaps with a value after an equals sign.
What follows a second equals sign is not looked at. -/
def FieldTest.ofChars? (cs : List Char) : Option FieldTest :=
  let isNamePart (c : Char) : Bool := c != '='
  let name := String.ofList (cs.takeWhile isNamePart)
  match cs.dropWhile isNamePart with
  | [] => some ⟨name, none⟩
  | _ :: value =>
    (FieldValue.ofChars? (value.takeWhile isNamePart)).map fun v => ⟨name, some v⟩

namespace LogRule

/-- Can a level or the name of an area begin with the character? -/
def canBegin (c : Char) : Bool :=
  c == '-' || c == ':' || c == '_' || Text.isLetterOrNumber c

/-- How many bytes characters take. -/
def width (cs : List Char) : Nat :=
  (String.ofList cs).utf8ByteSize

/-- Splits a text after so many bytes, unless that is within a character or beyond the end. -/
def splitAtByte? : Nat → List Char → Option (List Char × List Char)
  | 0, cs => some ([], cs)
  | _, [] => none
  | n, c :: rest =>
    if c.utf8Size ≤ n then
      (splitAtByte? (n - c.utf8Size) rest).map fun (front, back) => (c :: front, back)
    else none

/-- The rest of a text from a byte on. -/
def from? (text : List Char) (start : Nat) : Option (List Char) :=
  (splitAtByte? start text).map (·.2)

/-- So many bytes of a text from a byte on. -/
def cut? (text : List Char) (start count : Nat) : Option (List Char) := do
  let (front, _) ← splitAtByte? count (← from? text start)
  some front

/-- The level from a byte of a rule on; without any, everything is asked for. -/
def levelFrom? (whole : List Char) (start : Nat) : Option LogThreshold := do
  LogThreshold.ofCharsOrAll? (← from? whole start)

/-- The rest of a rule after its brackets, which end before a byte: a level after an equals sign, or
nothing. -/
def afterBrackets? (whole : List Char) (scope : LogScope) (position : Nat) :
    List Char → Option LogRule
  | [] => some ⟨scope, LogLevel.trace.rank⟩
  | '=' :: _ => (levelFrom? whole (position + 1)).map fun t => ⟨scope, t⟩
  | _ => none

/-- The rest of a rule after the bracket that opens before a byte: the name of a span, perhaps with
a test between braces. Without a name the test is about spans of any name. -/
def inBrackets? (whole : List Char) (area : Option String) (position : Nat) (rest : List Char) :
    Option LogRule := do
  let name := rest.takeWhile fun c => c != ']' && c != '\x7b'
  let span := String.ofList (← cut? whole position (width name))
  let next := position + width name + 1
  match rest.drop name.length with
  | [] => none
  | ']' :: after => afterBrackets? whole ⟨area, some span, none⟩ next after
  | _ :: rest =>
    let test := rest.takeWhile fun c => c != '\x7d'
    match rest.drop test.length with
    | _ :: ']' :: after =>
      if test.isEmpty then none
      else
        let field ← FieldTest.ofChars? (← cut? whole next (width test))
        let span := if name.isEmpty then none else some span
        afterBrackets? whole ⟨area, span, some field⟩ (next + width test + 2) after
    | _ => none

/-- **Reads a rule.** Its parts are told apart without the white space around it, but taken at the
same bytes of the text with it; so a rule with a blank in front is about areas that do not exist. A
word that is no level is the name of an area. -/
def ofChars? (whole : List Char) : Option LogRule :=
  let inner := Text.trimmed whole
  -- what follows the head tells whether it is a level or the name of an area
  let head := inner.takeWhile fun c => c != '=' && c != '['
  match inner with
  | [] => none
  | '[' :: rest => inBrackets? whole none 1 rest
  | first :: _ =>
    if !canBegin first then none
    else match inner.drop head.length with
      | [] =>
        match LogThreshold.ofChars? whole with
        | some threshold => some ⟨.everything, threshold⟩
        | none => some ⟨⟨some (String.ofList whole), none, none⟩, LogLevel.trace.rank⟩
      | mark :: rest => do
        let area := String.ofList (← cut? whole 0 (width head))
        if mark == '=' then
          let threshold ← levelFrom? whole (width head + 1)
          some ⟨⟨some area, none, none⟩, threshold⟩
        else inBrackets? whole (some area) (width head + 1) rest

end LogRule

/-- **Reads a filter**: rules between commas. One bad rule spoils the whole; empty ones do not
count. -/
def LogFilter.ofText? (text : String) : Option LogFilter :=
  let parts := (text.splitOn ",").filter fun part => !part.isEmpty
  (parts.mapM fun part => LogRule.ofChars? part.toList).map ofRules

/-- Whatever a text says, each scope has one rule of the filter at most. -/
theorem LogFilter.nodup_scopes_of_ofText? {text : String} {f : LogFilter}
    (h : ofText? text = some f) : (f.rules.map (·.scope)).Nodup := by
  obtain ⟨rules, -, rfl⟩ := Option.map_eq_some_iff.1 h
  exact nodup_scopes_ofRules rules

end Netlist
