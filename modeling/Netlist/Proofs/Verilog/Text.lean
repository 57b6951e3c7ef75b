import Mathlib.Data.List.Basic
import Netlist.Proofs.Verilog.Source

/-!
# What the text of a module says

A module with its nets becomes a text of signals. `Module.source` is what this text says: the ports
are the signals of the boundary nets, every net declares its three signals in the directions of its
kind (`directions`), and every instance is connected to the three signals of each of its nets.

`Source.read?_text` is the statement that a reader of the text sees exactly this, provided that the
names in the module are identifiers (`Module.WellNamed`). The text is taken line by line: the lines
of a declaration, of an instance and of the header are each shown to be the tokens of one statement.
-/

namespace Netlist.Verilog

/-- How the three signals of a net are declared: the acknowledge runs against the other two. -/
def directions : NetKind → List Direction
  | .internal => [.wire, .wire, .wire]
  | .boundaryInput => [.input, .input, .output]
  | .boundaryOutput => [.output, .output, .input]

/-- The declarations of one net. -/
def declaredItems (kind : NetKind) (net : String) : List Item :=
  List.zipWith Item.declaration (directions kind) (handshake net)

/-- An instance with the signals of its nets. -/
def Instantiation.placement (i : Instantiation) : Placement :=
  ⟨i.component, i.name, signals i.nets⟩

namespace Module

/-- The items of a module: its declarations by kind of net, then its instances. -/
def items (m : Module) : List Item :=
  m.inputs.flatMap (declaredItems .boundaryInput) ++
  m.outputs.flatMap (declaredItems .boundaryOutput) ++
  m.wires.flatMap (declaredItems .internal) ++
  m.instances.map fun i => .placement i.placement

/-- What the text of a module says. -/
def source (m : Module) : Source :=
  ⟨m.name, m.ports, m.items⟩

/-- All the names that go into the text are identifiers. -/
structure WellNamed (m : Module) : Prop where
  name : IsIdentifier m.name
  inputs : ∀ net ∈ m.inputs, IsIdentifier net
  outputs : ∀ net ∈ m.outputs, IsIdentifier net
  wires : ∀ net ∈ m.wires, IsIdentifier net
  component : ∀ i ∈ m.instances, IsIdentifier i.component
  inst : ∀ i ∈ m.instances, IsIdentifier i.name
  nets : ∀ i ∈ m.instances, ∀ net ∈ i.nets, IsIdentifier net

end Module

/-! ### Lines as tokens -/

/-- The signals of nets that are identifiers are identifiers. -/
theorem isIdentifier_of_mem_signals {nets : List String} (h : ∀ net ∈ nets, IsIdentifier net)
    {s : String} (hs : s ∈ signals nets) : IsIdentifier s := by
  obtain ⟨net, hnet, hs⟩ := List.mem_flatMap.1 hs
  exact isIdentifier_of_mem_handshake (h net hnet) hs

/-- A list that is spread over lines is read as words between commas. -/
theorem tokens_listing {indent : String} (hblank : tokens indent = []) (hend : EndsApart indent)
    {items : List String} (h : ∀ s ∈ items, IsIdentifier s) :
    (listing indent items).flatMap tokens = commaSeparated items := by
  -- the indentation is what keeps an item from growing together with the line in front of it
  have hitem : ∀ s ∈ items, tokens (indent ++ s) = [.word s] := by
    intro s hs
    rw [tokens_append_of_endsApart hend, hblank, tokens_of_isIdentifier (h s hs), List.nil_append]
  induction items with
  | nil => rfl
  | cons s items ih =>
    cases items with
    | nil =>
      change tokens (indent ++ s) ++ [] = [.word s]
      rw [hitem s List.mem_cons_self, List.append_nil]
    | cons s' items =>
      change tokens (indent ++ s ++ ",") ++ (listing indent (s' :: items)).flatMap tokens = _
      rw [tokens_append_of_startsApart _ ⟨',', [], rfl, rfl⟩, hitem s List.mem_cons_self,
        ih (fun x hx => h x (List.mem_cons_of_mem _ hx))
          (fun x hx => hitem x (List.mem_cons_of_mem _ hx))]
      rfl

/-- A line that declares a signal is read as its declaration. -/
theorem tokens_declaration (d : Direction) {s : String} (h : IsIdentifier s) :
    tokens (declaration d.word s) = (Item.declaration d s).statement := by
  have hline : declaration d.word s =
      "  " ++ padded d.word ++ " [" ++ toString (dataWidth - 1) ++ ":0] " ++ s ++ ";" := rfl
  -- two seams: one behind the signal, at the semicolon, and one in front of it, at the blank
  rw [hline, tokens_append_of_startsApart _ ⟨';', [], rfl, rfl⟩,
    tokens_append_of_endsApart (EndsApart.append _ ⟨[':', '0', ']'], ' ', rfl, rfl⟩),
    tokens_of_isIdentifier h]
  -- what stands in front of the signal depends on the keyword only
  cases d <;> rfl

/-- So are the lines that declare several signals. -/
theorem tokens_zipWith_declaration (ds : List Direction) {ss : List String}
    (h : ∀ s ∈ ss, IsIdentifier s) :
    (List.zipWith declaration (ds.map Direction.word) ss).flatMap tokens =
      (List.zipWith Item.declaration ds ss).flatMap Item.statement := by
  -- line by line; the two lists get shorter together
  induction ds generalizing ss with
  | nil => rfl
  | cons d ds ih =>
    cases ss with
    | nil => rfl
    | cons s ss =>
      rw [List.map_cons, List.zipWith_cons_cons, List.zipWith_cons_cons, List.flatMap_cons,
        List.flatMap_cons, tokens_declaration d (h s List.mem_cons_self),
        ih fun x hx => h x (List.mem_cons_of_mem _ hx)]

/-- The lines for nets of one kind declare their signals. -/
theorem tokens_declarations (kind : NetKind) {nets : List String}
    (h : ∀ net ∈ nets, IsIdentifier net) :
    (nets.flatMap (declarations ((directions kind).map Direction.word))).flatMap tokens =
      (nets.flatMap (declaredItems kind)).flatMap Item.statement := by
  rw [List.flatMap_assoc, List.flatMap_assoc]
  exact List.flatMap_congr fun net hnet => tokens_zipWith_declaration (directions kind) fun s hs =>
    isIdentifier_of_mem_handshake (h net hnet) hs

/-- An instance begins with the names of the component and of itself. -/
theorem tokens_instanceFront {component name : String} (hc : IsIdentifier component)
    (hn : IsIdentifier name) :
    tokens ("  " ++ component ++ " " ++ name) = [.word component, .word name] := by
  rw [tokens_append_of_endsApart (EndsApart.append _ ⟨[], ' ', rfl, rfl⟩),
    tokens_append_of_startsApart _ ⟨' ', [], rfl, rfl⟩,
    tokens_append_of_endsApart ⟨[' '], ' ', rfl, rfl⟩, tokens_of_isIdentifier hc,
    tokens_of_isIdentifier hn]
  rfl

/-- A list in brackets that is spread over several lines. -/
theorem tokens_block {front indent close : String} {ts : List Token} (hfront : tokens front = ts)
    (hblank : tokens indent = []) (hend : EndsApart indent)
    (hclose : tokens close = [.mark ')', .mark ';']) {items : List String}
    (h : ∀ s ∈ items, IsIdentifier s) :
    ([front ++ "("] ++ listing indent items ++ [close]).flatMap tokens =
      ts ++ bracketed items ++ [.mark ';'] := by
  -- the bracket ends the front, whatever that ends with
  have hopen : tokens (front ++ "(") = ts ++ [.mark '('] := by
    rw [tokens_append_of_startsApart _ ⟨'(', [], rfl, rfl⟩, hfront]
    rfl
  rw [List.flatMap_append, List.flatMap_append, List.flatMap_singleton, List.flatMap_singleton,
    hopen, tokens_listing hblank hend h, hclose, bracketed]
  simp only [List.append_assoc, List.cons_append, List.nil_append]

/-- The lines of an instance are read as its placement. -/
theorem tokens_lines {i : Instantiation} (hc : IsIdentifier i.component) (hn : IsIdentifier i.name)
    (hnets : ∀ net ∈ i.nets, IsIdentifier net) :
    i.lines.flatMap tokens = (Item.placement i.placement).statement := by
  have hsignals : ∀ s ∈ signals i.nets, IsIdentifier s := fun s => isIdentifier_of_mem_signals hnets
  have hstatement : (Item.placement i.placement).statement =
      [.word i.component, .word i.name] ++ bracketed (signals i.nets) ++ [.mark ';'] := rfl
  rw [hstatement]
  unfold Instantiation.lines
  cases hs : signals i.nets with
  | nil =>
    -- an instance of a component without ports keeps its brackets
    change tokens ("  " ++ i.component ++ " " ++ i.name ++ "();") ++ [] = _
    rw [tokens_append_of_startsApart _ ⟨'(', [')', ';'], rfl, rfl⟩, tokens_instanceFront hc hn]
    rfl
  | cons s rest =>
    rw [hs] at hsignals
    have hend : EndsApart "    " := ⟨[' ', ' ', ' '], ' ', rfl, rfl⟩
    exact tokens_block (tokens_instanceFront hc hn) rfl hend rfl hsignals

/-- The lines of the header are read as the header. -/
theorem tokens_header {m : Module} (h : m.WellNamed) :
    m.header.flatMap tokens = headerTokens m.name m.ports ++ [.mark ';'] := by
  -- the ports are signals of boundary nets, whose names are identifiers
  have hports : ∀ s ∈ m.ports, IsIdentifier s := by
    refine fun s => isIdentifier_of_mem_signals fun net hnet => ?_
    exact (List.mem_append.1 hnet).elim (h.inputs net) (h.outputs net)
  have hfront : tokens ("module " ++ m.name) = [.word "module", .word m.name] := by
    rw [tokens_append_of_endsApart ⟨['m', 'o', 'd', 'u', 'l', 'e'], ' ', rfl, rfl⟩,
      tokens_of_isIdentifier h.name]
    rfl
  unfold Module.header
  cases hp : m.ports with
  | nil =>
    -- a module without ports loses its brackets
    change tokens ("module " ++ m.name ++ ";") ++ [] = _
    rw [tokens_append_of_startsApart _ ⟨';', [], rfl, rfl⟩, hfront]
    rfl
  | cons s rest =>
    rw [hp] at hports
    have hend : EndsApart "  " := ⟨[' '], ' ', rfl, rfl⟩
    exact tokens_block hfront rfl hend rfl hports

/-- The tokens of the text of a module, statement by statement. -/
theorem tokens_text {m : Module} (h : m.WellNamed) : tokens m.text = m.source.tokens := by
  -- each instance is read by itself, from its own lines
  have hinstances : (m.instances.flatMap Instantiation.lines).flatMap tokens =
      (m.instances.map fun i => Item.placement i.placement).flatMap Item.statement := by
    rw [List.flatMap_assoc, List.flatMap_map]
    exact List.flatMap_congr fun i hi => tokens_lines (h.component i hi) (h.inst i hi) (h.nets i hi)
  have hend : ["endmodule"].flatMap tokens = [.word "endmodule"] := rfl
  -- section by section: the keywords of each group of declarations are those of its kind of net
  calc
    tokens m.text = m.lines.flatMap tokens := tokens_join_lines m.lines
    _ = m.header.flatMap tokens ++
        (m.inputs.flatMap (declarations ((directions .boundaryInput).map Direction.word))).flatMap
          tokens ++
        (m.outputs.flatMap (declarations ((directions .boundaryOutput).map Direction.word))).flatMap
          tokens ++
        (m.wires.flatMap (declarations ((directions .internal).map Direction.word))).flatMap
          tokens ++
        (m.instances.flatMap Instantiation.lines).flatMap tokens ++
        ["endmodule"].flatMap tokens := by
        simp only [Module.lines, List.flatMap_append]
        rfl
    _ = m.source.tokens := by
        rw [tokens_header h, tokens_declarations _ h.inputs, tokens_declarations _ h.outputs,
          tokens_declarations _ h.wires, hinstances, hend]
        simp only [Source.tokens, Module.source, Module.items, List.flatMap_append,
          List.append_assoc]

/-- No identifier opens a declaration, as the keywords are reserved words. -/
theorem Direction.ofWord?_of_isIdentifier {w : String} (h : IsIdentifier w) :
    Direction.ofWord? w = none := by
  obtain ⟨-, -, -, -, -, hfree⟩ := isIdentifier_iff.1 h
  -- the three keywords are in the list of reserved words
  have hreserved : ∀ d : Direction, d.word ∈ reservedWords := by
    intro d
    cases d <;> decide
  refine List.find?_eq_none.2 fun d _ hd => ?_
  rw [beq_iff_eq] at hd
  exact hfree (hd ▸ hreserved d)

/-- Declarations place nothing. -/
theorem filterMap_placed?_declaredItems (kind : NetKind) (nets : List String) :
    (nets.flatMap (declaredItems kind)).filterMap Item.placed? = [] := by
  rw [List.filterMap_flatMap, List.flatMap_eq_nil_iff]
  intro net _
  cases kind <;> rfl

/-- The instances in the text are those of the module. -/
theorem placed_source (m : Module) : m.source.placed = m.instances.map Instantiation.placement := by
  have hinstances : (m.instances.map fun i => Item.placement i.placement).filterMap Item.placed? =
      m.instances.map Instantiation.placement := by
    rw [List.filterMap_map]
    exact congrFun (List.filterMap_eq_map (f := Instantiation.placement)) m.instances
  simp only [Source.placed, Module.source, Module.items, List.filterMap_append,
    filterMap_placed?_declaredItems, hinstances, List.nil_append]

/-- **The text of a module is read as what it says.** -/
theorem Source.read?_text {m : Module} (h : m.WellNamed) : Source.read? m.text = some m.source := by
  unfold Source.read?
  rw [tokens_text h]
  refine Source.ofTokens?_tokens fun i hi => ?_
  cases i with
  | declaration d s => trivial
  | placement p =>
    -- the first word is the name of a component, and that is no keyword
    have hp : p ∈ m.source.placed := List.mem_filterMap.2 ⟨_, hi, rfl⟩
    rw [placed_source] at hp
    obtain ⟨i, hmem, rfl⟩ := List.mem_map.1 hp
    exact Direction.ofWord?_of_isIdentifier (h.component i hmem)

end Netlist.Verilog
