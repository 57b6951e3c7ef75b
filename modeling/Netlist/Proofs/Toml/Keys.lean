import Mathlib.Data.List.Nodup
import Netlist.Proofs.Answers
import Netlist.Toml.Document

/-!
# No key comes twice

A configuration text may not set a key twice in one table, however its tables are written: line by
line, under headers in any order, with dotted keys, or in braces. `Value.WellKeyed` says it of a
value and of everything inside it, `Node.WellKeyed` of what a key stands for while the text is being
read.

Tables in the making change in one way only, which is by way of `Items.within`. So there is one
lemma about working on the table at the end of a path (`Items.WellKeyed.within`), and each operation
on tables is a case of it. Readers come with what they yield (`Yields`), brackets and braces by
induction on their depth. Following the statements of a text, one by one from the empty draft
(`Draft.WellKeyed.follow?`), leads to `parse?_wellKeyed`.
-/

namespace Netlist.Toml

/-! ### Values and tables in the making -/

/-- **No table inside the value has a key twice.** -/
inductive Value.WellKeyed : Value → Prop
  | string (s : String) : WellKeyed (.string s)
  | integer (n : Int) : WellKeyed (.integer n)
  | float (x : Binary64) : WellKeyed (.float x)
  | boolean (b : Bool) : WellKeyed (.boolean b)
  | datetime (d : Datetime) : WellKeyed (.datetime d)
  | array {items : List Value} (items_wellKeyed : ∀ v ∈ items, WellKeyed v) :
      WellKeyed (.array items)
  | table {entries : Table} (nodup : (entries.map Prod.fst).Nodup)
      (values : ∀ e ∈ entries, WellKeyed e.2) : WellKeyed (.table entries)

/-- The same of what a key stands for. -/
inductive Node.WellKeyed : Node → Prop
  | value {v : Value} (value_wellKeyed : v.WellKeyed) : WellKeyed (.value v)
  | table {origin : Origin} {items : Items} (nodup : (items.map Prod.fst).Nodup)
      (nodes : ∀ x ∈ items, WellKeyed x.2) : WellKeyed (.table origin items)
  | tables {elements : List Items}
      (nodup : ∀ items ∈ elements, (items.map Prod.fst).Nodup)
      (nodes : ∀ items ∈ elements, ∀ x ∈ items, WellKeyed x.2) : WellKeyed (.tables elements)

/-- The same of a table in the making. -/
structure Items.WellKeyed (items : Items) : Prop where
  nodup : (items.map Prod.fst).Nodup
  nodes : ∀ x ∈ items, x.2.WellKeyed

namespace Items

variable {items : Items} {key : String} {node : Node}

theorem mem_of_lookup {β : Type} {l : List (String × β)} {b : β} (h : l.lookup key = some b) :
    (key, b) ∈ l := by
  obtain ⟨before, after, rfl, -⟩ := List.lookup_eq_some_iff.1 h
  exact List.mem_append_right _ List.mem_cons_self

/-- What a key stands for has no key twice either. -/
theorem WellKeyed.lookup (h : items.WellKeyed) (hkey : items.lookup key = some node) :
    node.WellKeyed :=
  h.nodes _ (mem_of_lookup hkey)

theorem wellKeyed_nil : WellKeyed [] :=
  ⟨List.nodup_nil, List.forall_mem_nil _⟩

/-- A new key comes to the end. -/
theorem WellKeyed.concat (h : items.WellKeyed) (hkey : items.lookup key = none)
    (hnode : node.WellKeyed) : WellKeyed (items ++ [(key, node)]) where
  nodup := by
    rw [List.map_append, List.map_singleton, ← List.concat_eq_append]
    exact h.nodup.concat (lookup_eq_none_iff_not_mem.1 hkey)
  nodes := List.forall_mem_append.2 ⟨h.nodes, List.forall_mem_singleton.2 hnode⟩

/-- A key that stands for something new keeps its place. -/
theorem WellKeyed.replace (h : items.WellKeyed) (key : String) (hnode : node.WellKeyed) :
    WellKeyed (items.replace key node) where
  nodup := by
    have hkeys : (items.replace key node).map Prod.fst = items.map Prod.fst := by
      rw [Items.replace, List.map_map]
      refine List.map_congr_left fun x _ => ?_
      by_cases hx : x.1 = key <;> simp [hx]
    rw [hkeys]
    exact h.nodup
  nodes := by
    refine List.forall_mem_map.2 fun x hx => ?_
    split
    · exact hnode
    · exact h.nodes x hx

theorem WellKeyed.erase (h : items.WellKeyed) (key : String) : WellKeyed (items.erase key) where
  nodup := h.nodup.sublist (List.filter_sublist.map _)
  nodes x hx := h.nodes x (List.mem_filter.1 hx).1

/-- A new table among its siblings. -/
theorem WellKeyed.table (h : items.WellKeyed) (origin : Origin) :
    Node.WellKeyed (.table origin items) :=
  .table h.nodup h.nodes

theorem wellKeyed_of_table {origin : Origin} (h : Node.WellKeyed (.table origin items)) :
    items.WellKeyed := by
  cases h with
  | table nodup nodes => exact ⟨nodup, nodes⟩

theorem wellKeyed_tables_iff {elements : List Items} :
    Node.WellKeyed (.tables elements) ↔ ∀ items ∈ elements, WellKeyed items := by
  constructor
  · intro h items hitems
    cases h with
    | tables nodup nodes => exact ⟨nodup items hitems, nodes items hitems⟩
  · exact fun h => .tables (fun items hitems => (h items hitems).nodup)
      fun items hitems => (h items hitems).nodes

/-! ### Working on tables -/

/-- What work on a table may rely on and has to keep up: no key comes twice in the table, nor in
what it takes out. -/
def Keeps {α : Type} (P : α → Prop) (f : Origin → Items → Option (α × Items)) : Prop :=
  ∀ origin inner a inner', inner.WellKeyed → f origin inner = some (a, inner') →
    P a ∧ inner'.WellKeyed

/-- **Working on the table at the end of a path** gives no key twice, if the work does not. -/
theorem WellKeyed.within {α : Type} {P : α → Prop} {f : Origin → Items → Option (α × Items)}
    (hf : Keeps P f) (dotted : Bool) (path : List String) (origin : Origin) {items items' : Items}
    {a : α} (h : items.WellKeyed)
    (hwithin : Items.within dotted f path origin items = some (a, items')) :
    P a ∧ items'.WellKeyed := by
  induction path generalizing origin items items' a with
  -- the path has ended, so this is the table to be worked on
  | nil => exact hf origin items a items' h hwithin
  -- the key is new, or stands for a table, or for several; the path goes on from there
  | cons key path ih =>
    rw [Items.within] at hwithin
    cases hkey : items.lookup key with
    | none =>
      simp only [hkey, Option.bind_eq_bind, Option.bind_eq_some_iff] at hwithin
      obtain ⟨⟨b, inner⟩, hinner, heq⟩ := hwithin
      cases heq
      obtain ⟨hb, hinner⟩ := ih _ wellKeyed_nil hinner
      exact ⟨hb, h.concat hkey (hinner.table _)⟩
    | some node =>
      have hnode := h.lookup hkey
      cases node with
      | value v => simp [hkey] at hwithin
      -- a table can be entered again, unless it is closed to such keys
      | table origin' inner =>
        simp only [hkey] at hwithin
        split at hwithin
        · cases hwithin
        · simp only [Option.bind_eq_bind, Option.bind_eq_some_iff] at hwithin
          obtain ⟨⟨b, inner'⟩, hinner', heq⟩ := hwithin
          cases heq
          obtain ⟨hb, hinner'⟩ := ih _ (wellKeyed_of_table hnode) hinner'
          exact ⟨hb, h.replace key (hinner'.table _)⟩
      -- of several tables, the last one is meant
      | tables elements =>
        simp only [hkey, Option.bind_eq_bind, Option.bind_eq_some_iff] at hwithin
        obtain ⟨last, hlast, ⟨b, inner⟩, hinner, heq⟩ := hwithin
        cases heq
        have helements := wellKeyed_tables_iff.1 hnode
        obtain ⟨hb, hinner⟩ := ih _ (helements last (List.mem_of_getLast? hlast)) hinner
        refine ⟨hb, h.replace key (wellKeyed_tables_iff.2 ?_)⟩
        refine List.forall_mem_append.2 ⟨fun x hx => ?_, List.forall_mem_singleton.2 hinner⟩
        exact helements x (List.dropLast_subset _ hx)

theorem WellKeyed.add? {items' : Items} (h : items.WellKeyed) (hnode : node.WellKeyed)
    (hadd : items.add? key node = some items') : items'.WellKeyed := by
  unfold Items.add? at hadd
  split at hadd
  · cases hadd
  · next hnot =>
    cases hadd
    exact h.concat (Option.not_isSome_iff_eq_none.1 hnot) hnode

/-- The operations that take nothing out. -/
theorem WellKeyed.of_map_within {f : Origin → Items → Option (Unit × Items)} {dotted : Bool}
    {path : List String} {origin : Origin} {items' : Items} (h : items.WellKeyed)
    (hf : Keeps (fun _ => True) f)
    (hwithin : (Items.within dotted f path origin items).map (·.2) = some items') :
    items'.WellKeyed := by
  obtain ⟨⟨u, inner⟩, hinner, rfl⟩ := Option.map_eq_some_iff.1 hwithin
  exact (h.within hf _ _ _ hinner).2

theorem WellKeyed.setKey? {path : KeyPath} {v : Value} {items' : Items} (h : items.WellKeyed)
    (hv : v.WellKeyed) (hset : items.setKey? path v = some items') : items'.WellKeyed := by
  refine h.of_map_within ?_ hset
  intro origin inner a inner' hinner hwork
  dsimp only at hwork
  split at hwork
  · cases hwork
  · obtain ⟨added, hadd, heq⟩ := Option.map_eq_some_iff.1 hwork
    cases heq
    exact ⟨trivial, hinner.add? (.value hv) hadd⟩

theorem WellKeyed.openTable? {path : KeyPath} {opened rest : Items} (h : items.WellKeyed)
    (hopen : items.openTable? path = some (opened, rest)) : opened.WellKeyed ∧ rest.WellKeyed := by
  refine h.within ?_ _ _ _ hopen
  intro origin inner a inner' hinner hwork
  dsimp only at hwork
  split at hwork
  · cases hwork
    exact ⟨wellKeyed_nil, hinner⟩
  · -- the table was made on the way to another one, and is given a header only now
    next hkey =>
    cases hwork
    exact ⟨wellKeyed_of_table (hinner.lookup hkey), hinner.erase _⟩
  · cases hwork

theorem WellKeyed.closeTable? {path : KeyPath} {current items' : Items} (h : items.WellKeyed)
    (hcurrent : current.WellKeyed) (hclose : items.closeTable? path current = some items') :
    items'.WellKeyed := by
  refine h.of_map_within ?_ hclose
  intro origin inner a inner' hinner hwork
  obtain ⟨added, hadd, heq⟩ := Option.map_eq_some_iff.1 hwork
  cases heq
  exact ⟨trivial, hinner.add? (hcurrent.table _) hadd⟩

theorem WellKeyed.openElement? {path : KeyPath} {items' : Items} (h : items.WellKeyed)
    (hopen : items.openElement? path = some items') : items'.WellKeyed := by
  refine h.of_map_within ?_ hopen
  intro origin inner a inner' hinner hwork
  dsimp only at hwork
  split at hwork
  · next hkey =>
    cases hwork
    have hnone : Node.WellKeyed (.tables []) :=
      wellKeyed_tables_iff.2 (List.forall_mem_nil _)
    exact ⟨trivial, hinner.concat hkey hnone⟩
  · cases hwork
    exact ⟨trivial, hinner⟩
  · cases hwork

theorem WellKeyed.closeElement? {path : KeyPath} {element items' : Items} (h : items.WellKeyed)
    (helement : element.WellKeyed) (hclose : items.closeElement? path element = some items') :
    items'.WellKeyed := by
  refine h.of_map_within ?_ hclose
  intro origin inner a inner' hinner hwork
  dsimp only at hwork
  split at hwork
  · next hkey =>
    cases hwork
    have hone : Node.WellKeyed (.tables [element]) :=
      wellKeyed_tables_iff.2 (List.forall_mem_singleton.2 helement)
    exact ⟨trivial, hinner.concat hkey hone⟩
  · -- the element comes after those of before
    next hkey =>
    cases hwork
    have hall := List.forall_mem_append.2
      ⟨wellKeyed_tables_iff.1 (hinner.lookup hkey), List.forall_mem_singleton.2 helement⟩
    exact ⟨trivial, hinner.replace _ (wellKeyed_tables_iff.2 hall)⟩
  · cases hwork

theorem WellKeyed.setAll? {entries : List (KeyPath × Value)} {items' : Items} (h : items.WellKeyed)
    (hvalues : ∀ e ∈ entries, e.2.WellKeyed) (hset : Items.setAll? entries items = some items') :
    items'.WellKeyed := by
  -- one entry after the other
  induction entries generalizing items with
  | nil =>
    cases hset
    exact h
  | cons e entries ih =>
    obtain ⟨path, v⟩ := e
    obtain ⟨hv, hrest⟩ := List.forall_mem_cons.1 hvalues
    obtain ⟨inner, hinner, hset⟩ := Option.bind_eq_some_iff.1 hset
    exact ih (h.setKey? hv hinner) hrest hset

/-! ### Finished tables -/

theorem toTable_eq_map (items : Items) : items.toTable = items.map fun x => (x.1, x.2.toValue) := by
  induction items with
  | nil => rfl
  | cons x rest ih => rw [Items.toTable, ih, List.map_cons]

theorem toArray_eq_map (elements : List Items) :
    Items.toArray elements = elements.map fun items => .table items.toTable := by
  induction elements with
  | nil => rfl
  | cons items rest ih => rw [Items.toArray, ih, List.map_cons]

theorem wellKeyed_toTable (hnodup : (items.map Prod.fst).Nodup)
    (hvalues : ∀ x ∈ items, x.2.toValue.WellKeyed) : Value.WellKeyed (.table items.toTable) := by
  rw [toTable_eq_map]
  refine .table ?_ (List.forall_mem_map.2 hvalues)
  rwa [List.map_map]

end Items

theorem Node.WellKeyed.toValue {node : Node} (h : node.WellKeyed) : node.toValue.WellKeyed := by
  -- on the nodes; what is inside of a table is finished before the table
  induction h with
  | value hv => exact hv
  | table nodup _ ih => exact Items.wellKeyed_toTable nodup ih
  | tables nodup _ ih =>
    rw [Node.toValue, Items.toArray_eq_map]
    refine .array (List.forall_mem_map.2 fun items hitems => ?_)
    exact Items.wellKeyed_toTable (nodup items hitems) (ih items hitems)

theorem Items.WellKeyed.toTable {items : Items} (h : items.WellKeyed) :
    Value.WellKeyed (.table items.toTable) :=
  wellKeyed_toTable h.nodup fun x hx => (h.nodes x hx).toValue

/-! ### Readers -/

/-- Whatever the reader finds is as `P` says. -/
def Yields {α : Type} (P : α → Prop) (r : Reader α) : Prop :=
  ∀ cs a rest, r cs = some (a, rest) → P a

namespace Yields

variable {α β : Type} {P : α → Prop} {Q : β → Prop} {r s : Reader α}

theorem map {f : α → β} (h : Yields P r) (hf : ∀ a, P a → Q (f a)) : Yields Q (r.map f) := by
  intro cs b rest hread
  obtain ⟨⟨a, rest'⟩, ha, heq⟩ := Option.map_eq_some_iff.1 hread
  cases heq
  exact hf a (h cs a rest' ha)

theorem orElse (h : Yields P r) (h' : Yields P s) : Yields P (r.orElse s) := by
  intro cs a rest hread
  unfold Reader.orElse at hread
  split at hread
  · next x hx =>
    cases hread
    exact h cs a rest hx
  · exact h' cs a rest hread

/-- An item that has been read comes in front of those that the reader finds. -/
theorem map_cons {readAll : Reader (List α)} (h : Yields (fun as => ∀ a ∈ as, P a) readAll) {a : α}
    (ha : P a) : Yields (fun as => ∀ a ∈ as, P a) (readAll.map (a :: ·)) :=
  h.map fun _ has => List.forall_mem_cons.2 ⟨ha, has⟩

/-- Nothing is asked of what a reader finds. -/
theorem trivial (r : Reader α) : Yields (fun _ => True) r :=
  fun _ _ _ _ => True.intro

end Yields

/-- A value without parts has no key twice. -/
theorem yields_scalar? : Yields Value.WellKeyed scalar? := by
  intro cs v rest hread
  unfold scalar? at hread
  split at hread
  · cases hread
    exact .boolean true
  · cases hread
    exact .boolean false
  · -- whichever of the readers has found it, it has no parts
    have hall : Yields Value.WellKeyed ((string?.map Value.string).orElse
        ((datetime?.map Value.datetime).orElse
          ((float?.map Value.float).orElse (integer?.map Value.integer)))) :=
      ((Yields.trivial string?).map fun s _ => .string s).orElse <|
        ((Yields.trivial datetime?).map fun d _ => .datetime d).orElse <|
          ((Yields.trivial float?).map fun x _ => .float x).orElse <|
            (Yields.trivial integer?).map fun n _ => .integer n
    exact hall _ v rest hread

section Parts

variable {value : Reader Value} (hvalue : Yields Value.WellKeyed value)

include hvalue

theorem yields_keyValue? : Yields (fun e => e.2.WellKeyed) (keyValue? value) := by
  intro cs e rest hread
  simp only [keyValue?, Option.bind_eq_bind, Option.bind_eq_some_iff] at hread
  obtain ⟨⟨key, rest'⟩, -, hread⟩ := hread
  dsimp only at hread
  split at hread
  · have hmap : Yields (fun e : KeyPath × Value => e.2.WellKeyed) (value.map (key, ·)) :=
      hvalue.map fun v hv => hv
    exact hmap _ e rest hread
  · cases hread

theorem yields_arrayItems? (fuel : Nat) :
    Yields (fun items => ∀ v ∈ items, v.WellKeyed) (arrayItems? value fuel) := by
  -- on the fuel, which limits the number of items
  induction fuel with
  | zero => exact fun _ _ _ h => nomatch h
  | succ fuel ih =>
    intro cs items rest hread
    rw [arrayItems?] at hread
    split at hread
    · cases hread
      exact List.forall_mem_nil _
    · simp only [Option.bind_eq_bind, Option.bind_eq_some_iff] at hread
      obtain ⟨⟨v, rest'⟩, hv, hread⟩ := hread
      have hfirst : v.WellKeyed := hvalue _ v rest' hv
      dsimp only at hread
      split at hread
      · exact ih.map_cons hfirst _ items rest hread
      · cases hread
        exact List.forall_mem_singleton.2 hfirst
      · cases hread

theorem yields_moreEntries? (fuel : Nat) :
    Yields (fun entries => ∀ e ∈ entries, e.2.WellKeyed) (moreEntries? value fuel) := by
  induction fuel with
  | zero => exact fun _ _ _ h => nomatch h
  | succ fuel ih =>
    intro cs entries rest hread
    simp only [moreEntries?, Option.bind_eq_bind, Option.bind_eq_some_iff] at hread
    obtain ⟨⟨e, rest'⟩, he, hread⟩ := hread
    have hfirst : e.2.WellKeyed := yields_keyValue? hvalue _ e rest' he
    dsimp only at hread
    split at hread
    · exact Yields.map_cons ih hfirst _ entries rest hread
    · cases hread
      exact List.forall_mem_singleton.2 hfirst
    · cases hread

/-- In braces, too, no key may be set twice. -/
theorem yields_inlineTable? : Yields Value.WellKeyed (inlineTable? value) := by
  have hentries : Yields (fun entries => ∀ e ∈ entries, e.2.WellKeyed) (inlineEntries? value) := by
    intro cs entries rest hread
    unfold inlineEntries? at hread
    split at hread
    · cases hread
      exact List.forall_mem_nil _
    · exact yields_moreEntries? hvalue _ _ entries rest hread
  intro cs v rest hread
  simp only [inlineTable?, Option.bind_eq_bind, Option.bind_eq_some_iff] at hread
  obtain ⟨⟨entries, rest'⟩, hfound, items, hset, heq⟩ := hread
  cases heq
  exact (Items.wellKeyed_nil.setAll? (hentries _ entries _ hfound) hset).toTable

end Parts

/-- A value that is read has no key twice, however deep it is. -/
theorem yields_valueWithin? (depth : Nat) : Yields Value.WellKeyed (valueWithin? depth) := by
  -- on the depth that is left: what is in brackets or braces has one level less
  induction depth with
  | zero =>
    intro cs v rest hread
    rw [valueWithin?] at hread
    exact yields_scalar? cs v rest hread
  | succ depth ih =>
    intro cs v rest hread
    unfold valueWithin? at hread
    split at hread
    · exact (yields_arrayItems? ih _).map (fun items hitems => .array hitems) _ v rest hread
    · exact yields_inlineTable? ih _ v rest hread
    · exact yields_scalar? _ v rest hread

/-! ### Texts -/

/-- No table inside the value that is stated has a key twice. -/
def Statement.WellKeyed : Statement → Prop
  | .keyValue _ v => v.WellKeyed
  | .table _ => True
  | .element _ => True

/-- A statement that is read has no key twice inside of its value. -/
theorem yields_statement? : Yields Statement.WellKeyed statement? := by
  intro cs s rest hread
  unfold statement? at hread
  split at hread
  · -- a header states no value
    have hheader : ∀ {cs : List Char} {s : Statement} {rest : List Char},
        header? cs = some (s, rest) → s.WellKeyed := by
      intro cs s rest hread
      unfold header? at hread
      split at hread
      all_goals
        simp only [Option.bind_eq_bind, Option.bind_eq_some_iff] at hread
        obtain ⟨⟨key, rest'⟩, -, hread⟩ := hread
        dsimp only at hread
        split at hread
        · cases hread
          exact trivial
        · cases hread
    exact hheader hread
  · have hkeyValue : Yields Statement.WellKeyed
        ((keyValue? value?).map fun x => .keyValue x.1 x.2) :=
      (yields_keyValue? (yields_valueWithin? depthLimit)).map fun _ he => he
    exact hkeyValue _ s rest hread

theorem wellKeyed_of_statementsWithin? {fuel : Nat} {cs : List Char} {statements : List Statement}
    (h : statementsWithin? fuel cs = some statements) : ∀ s ∈ statements, s.WellKeyed := by
  -- on the fuel; the text shrinks as well, but by an amount that only the readers know
  induction fuel generalizing cs statements with
  | zero =>
    cases cs with
    | nil =>
      cases h
      exact List.forall_mem_nil _
    | cons c cs => cases h
  | succ fuel ih =>
    cases cs with
    | nil =>
      cases h
      exact List.forall_mem_nil _
    | cons c cs =>
      unfold statementsWithin? at h
      split at h
      · exact ih h
      · simp only [Option.bind_eq_bind, Option.bind_eq_some_iff] at h
        obtain ⟨⟨s, rest⟩, hs, next, -, more, hmore, heq⟩ := h
        cases heq
        exact List.forall_mem_cons.2 ⟨yields_statement? _ s rest hs, ih hmore⟩

/-- The tables of a draft have no key twice. -/
structure Draft.WellKeyed (d : Draft) : Prop where
  root : Items.WellKeyed d.root
  current : Items.WellKeyed d.current

namespace Draft

variable {d d' : Draft}

theorem WellKeyed.close? {items : Items} (h : d.WellKeyed) (hclose : d.close? = some items) :
    items.WellKeyed := by
  unfold Draft.close? at hclose
  split at hclose
  · cases hclose
    exact h.current
  · exact h.root.closeTable? h.current hclose
  · exact h.root.closeElement? h.current hclose

/-- **A statement keeps it up.** -/
theorem WellKeyed.follow? {s : Statement} (h : d.WellKeyed) (hs : s.WellKeyed)
    (hfollow : d.follow? s = some d') : d'.WellKeyed := by
  cases s with
  | keyValue key v =>
    simp only [Draft.follow?, Option.bind_eq_bind, Option.bind_eq_some_iff] at hfollow
    obtain ⟨current, hset, heq⟩ := hfollow
    cases heq
    exact ⟨h.root, h.current.setKey? hs hset⟩
  | table key =>
    simp only [Draft.follow?, Option.bind_eq_bind, Option.bind_eq_some_iff] at hfollow
    obtain ⟨items, hclose, ⟨opened, root⟩, hopen, heq⟩ := hfollow
    cases heq
    obtain ⟨hopened, hroot⟩ := (h.close? hclose).openTable? hopen
    exact ⟨hroot, hopened⟩
  | element key =>
    simp only [Draft.follow?, Option.bind_eq_bind, Option.bind_eq_some_iff] at hfollow
    obtain ⟨items, hclose, root, hopen, heq⟩ := hfollow
    cases heq
    exact ⟨(h.close? hclose).openElement? hopen, Items.wellKeyed_nil⟩

theorem WellKeyed.followAll? {statements : List Statement} (h : d.WellKeyed)
    (hs : ∀ s ∈ statements, s.WellKeyed) (hfollow : Draft.followAll? statements d = some d') :
    d'.WellKeyed := by
  -- statement by statement, from the draft that the others have left
  induction statements generalizing d with
  | nil =>
    cases hfollow
    exact h
  | cons s statements ih =>
    obtain ⟨hfirst, hrest⟩ := List.forall_mem_cons.1 hs
    obtain ⟨d₁, hd₁, hfollow⟩ := Option.bind_eq_some_iff.1 hfollow
    exact ih (h.follow? hfirst hd₁) hrest hfollow

end Draft

/-- **A text describes a table without repeated keys**, at any depth. -/
theorem parse?_wellKeyed {text : String} {t : Table} (h : parse? text = some t) :
    Value.WellKeyed (.table t) := by
  simp only [parse?, Option.bind_eq_bind, Option.bind_eq_some_iff] at h
  obtain ⟨statements, hstatements, draft, hdraft, items, hclose, heq⟩ := h
  cases heq
  have hempty : Draft.empty.WellKeyed := ⟨Items.wellKeyed_nil, Items.wellKeyed_nil⟩
  have hall : ∀ s ∈ statements, s.WellKeyed := wellKeyed_of_statementsWithin? hstatements
  exact ((hempty.followAll? hall hdraft).close? hclose).toTable

end Netlist.Toml
