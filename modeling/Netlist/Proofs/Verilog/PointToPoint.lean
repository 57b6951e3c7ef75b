import Mathlib.Data.List.Nodup
import Mathlib.Data.List.Perm.Basic
import Netlist.Proofs.Verilog.Reading

/-!
# Complete chips are point to point

A chip is complete when every net has both of its ends. That is decided on the slots of the nets,
and says nothing yet about the text. The law proved here is about the text: elaboration succeeds
exactly when every signal of an internal net stands in two positions of the connection lists, and
every signal of a boundary net in one (`elaborate_pointToPoint`).

Both sides are compared with a third number, the number of instances that hold an end of the net.

* A position in a connection list is a port of an instance, and all ports of one side together name
  each net at most once (`Wired.nodup_netsOnSide`). So the positions of a net are its ends that
  instances hold (`count_connections`). A net that one instance has on both sides counts twice.
* A position of a signal is a position of its net, because no two nets share a signal
  (`count_connections_source`).
* A net is complete when as many instances hold its ends as its kind has ends inside
  (`Net.isComplete_iff_holders`).
-/

namespace Netlist

/-! ### Holders of ends -/

/-- How many instances hold an end of a net: none or one. -/
def Net.holders (n : Net) (s : Slot) : Nat :=
  match n.endpoint s with
  | some (.instance _) => 1
  | _ => 0

/-- An end that an instance holds counts once. -/
theorem Net.holders_of_held {n : Net} {s : Slot} {i : InstanceId}
    (h : n.endpoint s = some (.instance i)) : n.holders s = 1 := by
  unfold holders
  rw [h]

/-- An end that is open or held by the outside does not count. -/
theorem Net.holders_of_not_held {n : Net} {s : Slot}
    (h : ∀ i, n.endpoint s ≠ some (.instance i)) : n.holders s = 0 := by
  unfold holders
  split
  · next i hi => exact absurd hi (h i)
  · rfl

/-- A net is complete exactly when instances hold all the ends that lie inside. -/
theorem Net.isComplete_iff_holders (n : Net) : n.isComplete = true ↔
    n.holders .load + n.holders .driver = if n.kind = .internal then 2 else 1 := by
  obtain ⟨id, name, connection⟩ := n
  unfold isComplete driver load holders endpoint
  -- two ends lie inside an internal net, one inside a boundary net
  cases connection with
  | internal driver load =>
    cases driver <;> cases load <;> simp [Connection.slot?, kind, Connection.kind]
  | boundaryInput load => cases load <;> simp [Connection.slot?, kind, Connection.kind]
  | boundaryOutput driver => cases driver <;> simp [Connection.slot?, kind, Connection.kind]

namespace Chip

/-- The nets at all ports of one side. -/
def netsOnSide (c : Chip) (s : Slot) : List NetId :=
  c.instances.toList.flatMap fun i => i.netsAt s

/-- All ports of one side together name a net at most once. -/
theorem Wired.nodup_netsOnSide {c : Chip} (h : c.Wired) (s : Slot) : (c.netsOnSide s).Nodup := by
  refine List.nodup_flatMap.2 ⟨fun i hi => ?_, List.pairwise_iff_getElem.2 ?_⟩
  · -- within an instance
    obtain ⟨k, hk⟩ := Arena.mem_toList_iff.1 hi
    exact h.nodup hk s
  · -- between two instances: with a net in common they would be the same
    intro j k hj hk hlt id hid hid'
    have hsame := h.eq_of_mem_netsAt (List.getElem?_eq_getElem hj) (List.getElem?_eq_getElem hk)
      hid hid'
    exact absurd hsame (Nat.ne_of_lt hlt)

/-- A net is at some port of a side exactly if an instance holds this end of it. -/
theorem Wired.mem_netsOnSide {c : Chip} (h : c.Wired) {id : NetId} {n : Net}
    (hn : c.net? id = some n) (s : Slot) :
    id ∈ c.netsOnSide s ↔ ∃ j, n.endpoint s = some (.instance j) := by
  rw [netsOnSide, List.mem_flatMap]
  constructor
  · rintro ⟨i, hi, hid⟩
    obtain ⟨k, hk⟩ := Arena.mem_toList_iff.1 hi
    exact ⟨⟨k⟩, (h.holder_iff hn s k).2 ⟨i, hk, hid⟩⟩
  · rintro ⟨j, hj⟩
    obtain ⟨i, hi, hid⟩ := (h.holder_iff hn s j.index).1 hj
    exact ⟨i, List.mem_of_getElem? hi, hid⟩

/-- So a net is at as many ports of a side as instances hold the end. -/
theorem Wired.count_netsOnSide {c : Chip} (h : c.Wired) {id : NetId} {n : Net}
    (hn : c.net? id = some n) (s : Slot) : (c.netsOnSide s).count id = n.holders s := by
  by_cases hheld : ∃ j, n.endpoint s = some (.instance j)
  · obtain ⟨j, hj⟩ := hheld
    rw [Net.holders_of_held hj]
    -- it is there, and not twice
    exact List.count_eq_one_of_mem (h.nodup_netsOnSide s) ((h.mem_netsOnSide hn s).2 ⟨j, hj⟩)
  · rw [Net.holders_of_not_held fun j hj => hheld ⟨j, hj⟩]
    exact List.count_eq_zero_of_not_mem fun hmem => hheld ((h.mem_netsOnSide hn s).1 hmem)

/-- **The positions of a net** are its ends that instances hold. -/
theorem Wired.count_connections {c : Chip} (h : c.Wired) {id : NetId} {n : Net}
    (hn : c.net? id = some n) :
    c.connections.count id = n.holders .load + n.holders .driver := by
  -- the connections of an instance are its two sides, so all connections are too, up to order
  have hsides : (c.netsOnSide .load ++ c.netsOnSide .driver).Perm c.connections :=
    List.flatMap_append_perm c.instances.toList (fun i => i.netsAt .load) fun i => i.netsAt .driver
  rw [← hsides.count_eq id, List.count_append, h.count_netsOnSide hn, h.count_netsOnSide hn]

end Chip

namespace Verilog

/-! ### Positions in the text -/

/-- If just one of some different things is expanded to a list with `y` in it, and there once, then
`y` occurs in the expansion of a list as often as that thing in the list. -/
theorem count_flatMap_eq_count {α β : Type} [DecidableEq α] [DecidableEq β] {f : α → List β} {x : α}
    {y : β} {l : List α} (h : ∀ a ∈ l, (f a).count y = if a = x then 1 else 0) :
    (l.flatMap f).count y = l.count x := by
  -- thing by thing: only `x` adds to both counts
  induction l with
  | nil => rfl
  | cons a l ih =>
    rw [List.flatMap_cons, List.count_append, h a List.mem_cons_self,
      ih fun b hb => h b (List.mem_cons_of_mem _ hb), List.count_cons, Nat.add_comm]
    simp only [beq_iff_eq]

/-- The signals in the connection lists are those of the nets at the ports, in the same order. -/
theorem connections_source (c : Chip) : (Module.ofChip c).source.connections =
    c.connections.flatMap fun id => handshake (c.netName id) := by
  rw [Source.connections, placed_source, List.flatMap_map, Chip.connections, List.flatMap_assoc]
  change (c.instances.toList.map _).flatMap _ = _
  rw [List.flatMap_map]
  exact List.flatMap_congr fun i _ => List.flatMap_map c.netName handshake i.connections

/-- **The positions of a signal** are those of its net. -/
theorem count_connections_source {c : Chip} (h : c.Reachable) (hfew : c.names.size < idLimit)
    {id : NetId} {n : Net} (hn : c.net? id = some n) {s : String}
    (hs : s ∈ handshake (c.nameOf n)) :
    (Module.ofChip c).source.connections.count s = n.holders .load + n.holders .driver := by
  rw [connections_source, ← h.wired.count_connections hn]
  refine count_flatMap_eq_count fun id' hid' => ?_
  obtain ⟨n', hn'⟩ := h.wired.exists_net_of_mem_connections hid'
  rw [Chip.netName_eq hn']
  by_cases hid : id' = id
  · -- the three signals of a net differ, so `s` is one of them just once
    obtain rfl := hid
    obtain rfl : n = n' := Option.some.inj (hn.symm.trans hn')
    rw [if_pos rfl]
    exact List.count_eq_one_of_mem (nodup_handshake _) hs
  · -- the signals of another net are all different from `s`
    rw [if_neg hid]
    refine List.count_eq_zero_of_not_mem fun hs' => hid ?_
    exact NetId.ext ((h.separate hfew).eq_of_mem_handshake hn' hn hs' hs)

/-! ### Elaboration -/

/-- **The point-to-point law.** The text of a reachable chip is read as a source in which the
following holds: elaboration succeeds exactly when each of the three signals of every internal net
stands in two positions of the connection lists, and each of those of every boundary net in one. If
it succeeds, its answer is the text; if not, it is the list of the incomplete nets, and no text.
The chip may have any number of names that can be numbered. -/
theorem elaborate_pointToPoint {c : Chip} (h : c.Reachable) (hfew : c.names.size < idLimit) :
    ∃ source, Source.read? (moduleText c) = some source ∧
      ((∃ text, elaborate c = .ok text) ↔
        ∀ n ∈ c.nets.toList, ∀ s ∈ handshake (c.nameOf n),
          source.connections.count s = if n.kind = .internal then 2 else 1) ∧
      (∀ text, elaborate c = .ok text → text = moduleText c) ∧
      (∀ e, elaborate c = .error e → e = .incomplete c.name c.violations ∧ c.violations ≠ []) := by
  refine ⟨_, Source.read?_text (wellNamed_ofChip h), ?_, ?_, ?_⟩
  · rw [exists_elaborate_eq_ok_iff]
    -- both sides are about the number of instances that hold an end of the net
    have hcount : ∀ n ∈ c.nets.toList, ∀ s ∈ handshake (c.nameOf n),
        (Module.ofChip c).source.connections.count s = n.holders .load + n.holders .driver := by
      intro n hn s hs
      obtain ⟨k, hk⟩ := Arena.mem_toList_iff.1 hn
      have hnet : c.net? ⟨k⟩ = some n := hk
      exact count_connections_source h hfew hnet hs
    constructor
    · intro hcomplete n hn s hs
      rw [hcount n hn s hs]
      exact n.isComplete_iff_holders.1 (hcomplete n hn)
    · intro hpositions n hn
      have hdata : c.nameOf n ∈ handshake (c.nameOf n) := List.mem_cons_self
      rw [n.isComplete_iff_holders, ← hcount n hn _ hdata]
      exact hpositions n hn _ hdata
  · intro text htext
    exact (elaborate_eq_ok_iff.1 htext).2
  · exact fun e => elaborate_eq_error

/-- In the looped chip the wire stands twice in the connections of the one instance; before the
instance was added the chip could not be elaborated, and some signal did not stand where it
should. -/
theorem elaborate_pointToPoint_loopChip :
    (∃ source, Source.read? (moduleText Chip.loopChip) = some source ∧
      source.connections.count "wire_2_ack" = 2 ∧ source.connections.count "a" = 1) ∧
    ∃ source, Source.read? (moduleText Chip.openChip) = some source ∧
      ¬ ∀ n ∈ Chip.openChip.nets.toList, ∀ s ∈ handshake (Chip.openChip.nameOf n),
        source.connections.count s = if n.kind = .internal then 2 else 1 := by
  constructor
  · obtain ⟨source, hread, hiff, -, -⟩ :=
      elaborate_pointToPoint Chip.loopChip_reachable (by decide)
    have hcount := hiff.1 ⟨_, rfl⟩
    refine ⟨source, hread, ?_, ?_⟩
    · exact hcount ⟨⟨2⟩, ⟨6⟩, .internal (some ⟨0⟩) (some ⟨0⟩)⟩ (by decide) "wire_2_ack" (by decide)
    · exact hcount ⟨⟨0⟩, ⟨0⟩, .boundaryInput (some ⟨0⟩)⟩ (by decide) "a" (by decide)
  · obtain ⟨source, hread, hiff, -, -⟩ :=
      elaborate_pointToPoint Chip.openChip_reachable (by decide)
    refine ⟨source, hread, fun hcount => ?_⟩
    obtain ⟨text, htext⟩ := hiff.2 hcount
    cases htext

end Verilog

end Netlist
