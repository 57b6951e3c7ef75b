/-!
# Handshake signals

Every net is emitted as three signals: the data itself, a strobe that announces valid data, and an
acknowledge that runs against the data. `handshake` gives their names from the net's name.
-/

namespace Netlist

/-- What a strobe's name ends in. -/
def strobeEnding : String := "_stb"

/-- What an acknowledge's name ends in. -/
def acknowledgeEnding : String := "_ack"

/-- The data, strobe and acknowledge names of the net called `base`, in this order. -/
def handshake (base : String) : List String :=
  [base, base ++ strobeEnding, base ++ acknowledgeEnding]

@[simp] theorem length_handshake (base : String) : (handshake base).length = 3 := rfl

/-- The three signals, one by one. -/
theorem mem_handshake {s base : String} :
    s ∈ handshake base ↔ s = base ∨ s = base ++ strobeEnding ∨ s = base ++ acknowledgeEnding := by
  simp [handshake]

end Netlist
