import Netlist.Proofs.Answers
import Netlist.Proofs.Text.Lines
import Netlist.Proofs.Verilog.Tokens

/-!
# Module sources

What a module text says, one layer above its tokens: a module has a name, a list of ports, and items
in order, each of which declares a signal or places an instance. `Source.read?` reads this from any
text that keeps to the form; it knows nothing about nets or handshakes.

The reader works on statements. Every statement but the last ends with a semicolon, the first is the
header and the last is `endmodule`. What an item is, is decided by its first word: `input`, `output`
and `wire` open a declaration, any other word names a component. That is where it matters that no
component is called by a reserved word.

The second half of the file writes a source as tokens, statement by statement (`Source.tokens`), and
shows that the reader undoes this (`Source.ofTokens?_tokens`). It needs two facts about every item:
it has no semicolon inside, so that the statements are split where they end, and its first word
says what it is (`Item.Unmistakable`).
-/

namespace Netlist.Verilog

/-- How a signal is declared. -/
inductive Direction where
  | input
  | output
  | wire
deriving DecidableEq, Repr

/-- The keyword of a declaration. -/
def Direction.word : Direction → String
  | input => "input"
  | output => "output"
  | wire => "wire"

/-- The declaration that a word opens. -/
def Direction.ofWord? (w : String) : Option Direction :=
  [input, output, wire].find? fun d => d.word == w

/-- An instance, with all its signals by position. -/
structure Placement where
  component : String
  name : String
  signals : List String
deriving DecidableEq, Repr

/-- What may stand between the header and the end. -/
inductive Item where
  | declaration (direction : Direction) (signal : String)
  | placement (p : Placement)
deriving DecidableEq, Repr

/-- The declaration in an item. -/
def Item.declared? : Item → Option (Direction × String)
  | declaration d s => some (d, s)
  | placement _ => none

/-- The instance in an item. -/
def Item.placed? : Item → Option Placement
  | declaration _ _ => none
  | placement p => some p

/-- **What the text of a module says.** -/
structure Source where
  name : String
  ports : List String
  items : List Item
deriving DecidableEq, Repr

namespace Source

/-- The declarations, in order. -/
def declared (s : Source) : List (Direction × String) :=
  s.items.filterMap Item.declared?

/-- The instances, in order. -/
def placed (s : Source) : List Placement :=
  s.items.filterMap Item.placed?

/-- The signals in all the connection lists; a signal stands here once for each position. -/
def connections (s : Source) : List String :=
  s.placed.flatMap Placement.signals

end Source

/-! ### Reading -/

/-- Reads words with commas between them, up to the closing bracket. -/
def words? : List Token → Option (List String)
  | [.word s, .mark ')'] => some [s]
  | .word s :: .mark ',' :: rest => (words? rest).map (s :: ·)
  | _ => none

/-- Reads a list in brackets. -/
def bracketed? : List Token → Option (List String)
  | [.mark '(', .mark ')'] => some []
  | .mark '(' :: rest => words? rest
  | _ => none

/-- Reads the header: the module's name and its ports. A module without ports has no brackets. -/
def header? : List Token → Option (String × List String)
  | [.word k, .word name] => if k = "module" then some (name, []) else none
  | .word k :: .word name :: rest =>
    if k = "module" then (bracketed? rest).map (name, ·) else none
  | _ => none

/-- Reads what comes behind the keyword of a declaration: the width, then the signal. -/
def declaredSignal? : List Token → Option String
  | [.mark '[', .word high, .mark ':', .word low, .mark ']', .word s] =>
    if high = toString (dataWidth - 1) ∧ low = "0" then some s else none
  | _ => none

/-- Reads what comes behind the name of a component: an instance. -/
def placement? (component : String) : List Token → Option Placement
  | .word name :: rest => (bracketed? rest).map (⟨component, name, ·⟩)
  | _ => none

/-- Reads an item. -/
def item? : List Token → Option Item
  | .word w :: rest =>
    match Direction.ofWord? w with
    | some d => (declaredSignal? rest).map (.declaration d)
    | none => (placement? w rest).map .placement
  | _ => none

/-- Reads a module from its tokens. -/
def Source.ofTokens? (ts : List Token) : Option Source :=
  match ts.splitOn (.mark ';') with
  | [] => none
  | first :: rest =>
    if rest.getLast? = some [.word "endmodule"] then do
      let (name, ports) ← header? first
      let items ← rest.dropLast.mapM item?
      return { name, ports, items }
    else none

/-- **Reads a module from its text.** -/
def Source.read? (text : String) : Option Source :=
  ofTokens? (tokens text)

/-! ### Statements as tokens -/

/-- Words with commas between them. -/
def commaSeparated : List String → List Token
  | [] => []
  | [s] => [.word s]
  | s :: rest => .word s :: .mark ',' :: commaSeparated rest

/-- There is a comma as long as another word follows. -/
theorem commaSeparated_cons_cons (s s' : String) (rest : List String) :
    commaSeparated (s :: s' :: rest) = .word s :: .mark ',' :: commaSeparated (s' :: rest) := rfl

/-- A list in brackets. -/
def bracketed (ss : List String) : List Token :=
  .mark '(' :: (commaSeparated ss ++ [.mark ')'])

/-- The header, without its semicolon. -/
def headerTokens (name : String) (ports : List String) : List Token :=
  .word "module" :: .word name :: if ports = [] then [] else bracketed ports

/-- An item, without its semicolon. -/
def Item.tokens : Item → List Token
  | declaration d s =>
    [.word d.word, .mark '[', .word (toString (dataWidth - 1)), .mark ':', .word "0", .mark ']',
      .word s]
  | placement p => .word p.component :: .word p.name :: bracketed p.signals

/-- An item whose first word says what it is. -/
def Item.Unmistakable : Item → Prop
  | declaration _ _ => True
  | placement p => Direction.ofWord? p.component = none

/-- Words between commas are read up to the bracket. -/
theorem words?_commaSeparated {ss : List String} (h : ss ≠ []) :
    words? (commaSeparated ss ++ [.mark ')']) = some ss := by
  induction ss with
  | nil => exact absurd rfl h
  | cons s ss ih =>
    cases ss with
    | nil => rfl
    | cons s' ss =>
      rw [commaSeparated_cons_cons, List.cons_append, List.cons_append]
      -- the second token is a comma and no bracket, so the list goes on
      change (words? (commaSeparated (s' :: ss) ++ [.mark ')'])).map (s :: ·) = _
      rw [ih (List.cons_ne_nil s' ss), Option.map_some]

/-- A list in brackets is read, empty or not. -/
theorem bracketed?_bracketed (ss : List String) : bracketed? (bracketed ss) = some ss := by
  cases ss with
  | nil => rfl
  | cons s ss =>
    -- the reader looks two tokens ahead, so it has to be seen that the list is not empty
    have hwords := words?_commaSeparated (List.cons_ne_nil s ss)
    cases ss with
    | nil => exact hwords
    | cons s' ss => exact hwords

/-- The header is read, with ports or without. -/
theorem header?_headerTokens (name : String) (ports : List String) :
    header? (headerTokens name ports) = some (name, ports) := by
  unfold headerTokens
  -- without ports there are no brackets, and the header ends with the name
  by_cases h : ports = []
  · rw [if_pos h, h]
    rfl
  · rw [if_neg h]
    change (bracketed? (bracketed ports)).map (name, ·) = _
    rw [bracketed?_bracketed, Option.map_some]

/-- A keyword is read as the declaration that it opens. -/
theorem Direction.ofWord?_word (d : Direction) : Direction.ofWord? d.word = some d := by
  cases d <;> rfl

/-- An item whose first word says what it is is read. -/
theorem item?_tokens {i : Item} (h : i.Unmistakable) : item? i.tokens = some i := by
  cases i with
  | declaration d s =>
    rw [Item.tokens, item?, Direction.ofWord?_word]
    rfl
  | placement p =>
    -- the first word is the name of a component, which is no keyword
    rw [Item.tokens, item?, show Direction.ofWord? p.component = none from h]
    change ((bracketed? (bracketed p.signals)).map (Placement.mk p.component p.name)).map
      Item.placement = _
    rw [bracketed?_bracketed]
    rfl

/-! ### Splitting into statements -/

/-- Words between commas have no semicolon. -/
theorem semicolon_not_mem_commaSeparated {ss : List String} :
    Token.mark ';' ∉ commaSeparated ss := by
  induction ss with
  | nil => exact List.not_mem_nil
  | cons s ss ih =>
    cases ss with
    | nil => exact fun h => by simp [commaSeparated] at h
    | cons s' ss =>
      intro h
      rw [commaSeparated_cons_cons, List.mem_cons, List.mem_cons] at h
      rcases h with h | h | h
      · cases h
      · exact absurd h (by decide)
      · exact ih h

/-- Neither have brackets. -/
theorem semicolon_not_mem_bracketed (ss : List String) : Token.mark ';' ∉ bracketed ss := by
  intro h
  rw [bracketed, List.mem_cons, List.mem_append, List.mem_singleton] at h
  -- the opening bracket, the words, the closing bracket
  rcases h with h | h | h
  · exact absurd h (by decide)
  · exact semicolon_not_mem_commaSeparated h
  · exact absurd h (by decide)

/-- There is no semicolon inside the header. -/
theorem semicolon_not_mem_headerTokens (name : String) (ports : List String) :
    Token.mark ';' ∉ headerTokens name ports := by
  intro h
  unfold headerTokens at h
  by_cases hports : ports = []
  · simp [hports] at h
  · rw [if_neg hports, List.mem_cons, List.mem_cons] at h
    rcases h with h | h | h
    · cases h
    · cases h
    · exact semicolon_not_mem_bracketed ports h

/-- There is none inside an item. -/
theorem semicolon_not_mem_tokens (i : Item) : Token.mark ';' ∉ i.tokens := by
  cases i with
  | declaration d s => simp [Item.tokens]
  | placement p =>
    intro h
    rw [Item.tokens, List.mem_cons, List.mem_cons] at h
    rcases h with h | h | h
    · cases h
    · cases h
    · exact semicolon_not_mem_bracketed p.signals h

/-- An item with its semicolon. -/
def Item.statement (i : Item) : List Token :=
  i.tokens ++ [.mark ';']

/-- The header and the items, each with its semicolon, and the end of the module. -/
def Source.tokens (s : Source) : List Token :=
  headerTokens s.name s.ports ++ [.mark ';'] ++ s.items.flatMap Item.statement ++
    [.word "endmodule"]

/-- **The reader undoes the statements.** -/
theorem Source.ofTokens?_tokens {s : Source} (h : ∀ i ∈ s.items, i.Unmistakable) :
    Source.ofTokens? s.tokens = some s := by
  have hsplit : s.tokens.splitOn (.mark ';') =
      headerTokens s.name s.ports :: (s.items.map Item.tokens ++ [[.word "endmodule"]]) := by
    -- the header counts as a statement among the others, with the end of the module behind them
    have hstatements : s.tokens = (headerTokens s.name s.ports :: s.items.map Item.tokens).flatMap
        (· ++ [Token.mark ';']) ++ [.word "endmodule"] := by
      rw [List.flatMap_cons, List.flatMap_map]
      rfl
    rw [hstatements]
    refine splitOn_pieces (fun ts hts => ?_) (by decide)
    rcases List.mem_cons.1 hts with rfl | hts
    · exact semicolon_not_mem_headerTokens s.name s.ports
    · obtain ⟨i, -, rfl⟩ := List.mem_map.1 hts
      exact semicolon_not_mem_tokens i
  unfold Source.ofTokens?
  rw [hsplit]
  change (if (s.items.map Item.tokens ++ [[Token.word "endmodule"]]).getLast? =
    some [Token.word "endmodule"] then _ else _) = _
  rw [if_pos List.getLast?_concat, List.dropLast_concat, header?_headerTokens,
    mapM_map_eq_some fun i hi => item?_tokens (h i hi)]
  rfl

end Netlist.Verilog
