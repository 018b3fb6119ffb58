import ConstrainedDecoding.Automaton.Dfa
import Std.Data.HashMap

/-! The subset construction. -/

namespace ConstrainedDecoding.Automaton

/-- A state of the deterministic automaton: the states of the nondeterministic one that consume a
byte, ascending, and whether the input may end. -/
structure StateSet where
  states : List StateId
  accepting : Bool
deriving DecidableEq, Hashable

def StateSet.isDead (s : StateSet) : Bool := s.states.isEmpty && !s.accepting

namespace Nfa

/-- A place of the search for a closure: a state, and whether an end anchor has been crossed. -/
def place (s : StateId) (afterEnd : Bool) : Nat := 2 * s + afterEnd.toNat

/-- What can be reached from a place without consuming a byte. A start anchor is crossed only at the
start of the input, and after an end anchor nothing can be consumed any more. -/
def silentMoves (nfa : Nfa) (atStart : Bool) (p : Nat) : List Nat :=
  let afterEnd := p % 2 == 1
  match nfa.states[p / 2]? with
  | some (.epsilon next) => [place next afterEnd]
  | some (.union alternatives) => alternatives.map (place · afterEnd)
  | some (.anchor .start next) => if atStart then [place next afterEnd] else []
  | some (.anchor .stop next) => [place next true]
  | _ => []

def consumes (nfa : Nfa) (s : StateId) : Bool :=
  match nfa.states[s]? with
  | some (.range _ _ _) => true
  | _ => false

def accepts (nfa : Nfa) (s : StateId) : Bool :=
  nfa.states[s]? == some .accept

/-- The set of states that some seeds stand for. -/
def closure (nfa : Nfa) (m : Marks) (seeds : List StateId) (atStart : Bool) :
    StateSet × Marks :=
  let (m, found) := explore (nfa.silentMoves atStart) m.clear (seeds.map (place · false)) []
  let states := found.filterMap fun p =>
    if p % 2 = 0 && nfa.consumes (p / 2) then some (p / 2) else none
  ({ states := states.mergeSort, accepting := found.any fun p => nfa.accepts (p / 2) }, m)

/-- The states that follow those of a set after a byte. -/
def step (nfa : Nfa) (s : StateSet) (b : UInt8) : List StateId :=
  s.states.filterMap fun (i : StateId) =>
    match nfa.states[i]? with
    | some (.range lo hi next) => if lo ≤ b && b ≤ hi then some next else none
    | _ => none

end Nfa

/-- The sets found so far, their numbers, and the rows of those that have been taken up. -/
structure Discovery where
  sets : Array StateSet
  numbers : Std.HashMap StateSet StateId
  /-- The targets of seeds whose closures are known. -/
  known : Std.HashMap (List StateId) (Option StateId)
  rows : Array (Array (Option StateId))
  marks : Marks

namespace Discovery

/-- The number of a set, which is a new one if the set is. -/
def number (limits : CompileLimits) (d : Discovery) (s : StateSet) :
    Except Error (StateId × Discovery) :=
  match d.numbers[s]? with
  | some i => .ok (i, d)
  | none =>
    if limits.dfaStates ≤ d.sets.size then
      .error (.tooComplex .dfaStates limits.dfaStates)
    else
      .ok (d.sets.size,
        { d with sets := d.sets.push s, numbers := d.numbers.insert s d.sets.size })

/-- The target that some seeds stand for. -/
def resolve (limits : CompileLimits) (nfa : Nfa) (d : Discovery) (seeds : List StateId) :
    Except Error (Option StateId × Discovery) := do
  -- the marks leave the record, so that they are changed in place
  let marks := d.marks
  let d := { d with marks := .none 0 }
  let (s, marks) := nfa.closure marks seeds false
  let d := { d with marks }
  let (t, d) ← if s.isDead then .ok (none, d) else (d.number limits s).map fun (i, d) => (some i, d)
  return (t, { d with known := d.known.insert seeds t })

/-- The target of a set for one byte. -/
def target (limits : CompileLimits) (nfa : Nfa) (s : StateSet) (d : Discovery) (b : UInt8) :
    Except Error (Option StateId × Discovery) :=
  match nfa.step s b with
  | [] => .ok (none, d)
  | seeds =>
    match d.known[seeds]? with
    | some t => .ok (t, d)
    | none => d.resolve limits nfa seeds

/-- Add the row of a set. -/
def expand (limits : CompileLimits) (nfa : Nfa) (representatives : Array UInt8) (s : StateSet)
    (d : Discovery) : Except Error Discovery := do
  let (row, d) ← representatives.foldlM (fun (row, d) b => do
    let (t, d) ← target limits nfa s d b
    return (row.push t, d)) ((#[] : Array (Option StateId)), d)
  return { d with rows := d.rows.push row }

/-- Take up the sets from number `current` on; `fuel` bounds how many there can be. -/
def run (limits : CompileLimits) (nfa : Nfa) (representatives : Array UInt8) (fuel current : Nat)
    (d : Discovery) : Except Error Discovery :=
  match fuel, d.sets[current]? with
  | fuel + 1, some s => do
    run limits nfa representatives fuel (current + 1) (← expand limits nfa representatives s d)
  | _, _ => .ok d

end Discovery

/-- The deterministic automaton of all sets that can be reached. -/
def determinize (limits : CompileLimits) (nfa : Nfa) : Except Error Dfa := do
  let classes := ByteClasses.ofNfa nfa
  let (start, marks) := nfa.closure (.none (2 * nfa.states.size)) [nfa.start] true
  if start.isDead then .error .matchesNothing
  let d ← Discovery.run limits nfa classes.representatives (max limits.dfaStates 1) 0
    { sets := #[start], numbers := {(start, 0)}, known := ∅, rows := #[], marks }
  return { classes, rows := d.rows, accepting := d.sets.map (·.accepting) }

/-- The trimmed deterministic automaton of a nondeterministic one. -/
def Dfa.ofNfa (limits : CompileLimits) (nfa : Nfa) : Except Error Dfa := do
  match (← determinize limits nfa).trim? with
  | some d => .ok d
  | none => .error .matchesNothing

end ConstrainedDecoding.Automaton
