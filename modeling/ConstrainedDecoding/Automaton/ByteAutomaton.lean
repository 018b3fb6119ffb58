import ConstrainedDecoding.Error

/-! Automata over bytes, as far as the index of a vocabulary looks at them. -/

namespace ConstrainedDecoding.Automaton

/-- A deterministic automaton over bytes, whatever its transitions are kept in. -/
structure ByteAutomaton where
  start : StateId
  /-- The states are the numbers below it. -/
  size : Nat
  /-- The state after one byte. -/
  next? : StateId → UInt8 → Option StateId
  isAccepting : StateId → Bool
  /-- What is kept for the transitions of a state. -/
  row : StateId → Array (Option StateId)

namespace ByteAutomaton

/-- The state after a byte string. -/
def walk? (a : ByteAutomaton) (s : StateId) (bytes : List UInt8) : Option StateId :=
  bytes.foldlM a.next? s

def acceptingStates (a : ByteAutomaton) : List StateId :=
  (List.range a.size).filter a.isAccepting

/-- States with equal rows go on alike. They may differ in whether they accept. -/
def RowsDecide (a : ByteAutomaton) : Prop :=
  ∀ s < a.size, ∀ s' < a.size, a.row s = a.row s' → a.next? s = a.next? s'

theorem walk?_cons (a : ByteAutomaton) (s : StateId) (b : UInt8) (bs : List UInt8) :
    a.walk? s (b :: bs) = (a.next? s b).bind fun s => a.walk? s bs := rfl

end ByteAutomaton

end ConstrainedDecoding.Automaton
