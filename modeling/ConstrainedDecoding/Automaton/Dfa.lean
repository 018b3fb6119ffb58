import ConstrainedDecoding.Automaton.ByteAutomaton
import ConstrainedDecoding.Automaton.Nfa
import ConstrainedDecoding.Automaton.Search

/-! Deterministic automata over classes of bytes. -/

namespace ConstrainedDecoding.Automaton

/-- A partition of the bytes into ranges, numbered upwards from zero. -/
structure ByteClasses where
  /-- The class of every byte. A byte has room for its number, as there are no more classes than bytes. -/
  classes : Array UInt8
  count : Nat
deriving DecidableEq

namespace ByteClasses

/-- The bytes after which a range of an automaton begins or ends. -/
def boundaries (nfa : Nfa) : Array Bool :=
  nfa.states.foldl (fun marks state =>
    match state with
    | .range lo hi _ =>
      let marks := if 0 < lo then marks.setIfInBounds (lo.toNat - 1) true else marks
      marks.setIfInBounds hi.toNat true
    | _ => marks) (Array.replicate 256 false)

/-- A new class begins after every boundary. -/
def ofBoundaries (boundaries : Array Bool) : ByteClasses :=
  let (classes, last) := (List.range 256).foldl (fun (classes, c) b =>
    (classes.push c.toUInt8, if boundaries.getD b false && b < 255 then c + 1 else c)) (#[], 0)
  { classes, count := last + 1 }

/-- The coarsest classes that no range of an automaton splits. -/
def ofNfa (nfa : Nfa) : ByteClasses := ofBoundaries (boundaries nfa)

def get (c : ByteClasses) (b : UInt8) : Nat := (c.classes.getD b.toNat 0).toNat

/-- The least byte of every class. -/
def representatives (c : ByteClasses) : Array UInt8 :=
  (List.range 256).foldl (fun reps b =>
    if reps.size = c.get b.toUInt8 then reps.push b.toUInt8 else reps) #[]

end ByteClasses

/-- A deterministic automaton. State 0 is the start, and `rows` holds the target of every state for
every class; a missing target is a dead end. -/
structure Dfa where
  classes : ByteClasses
  rows : Array (Array (Option StateId))
  accepting : Array Bool
deriving DecidableEq

namespace Dfa

def start : StateId := 0

def size (d : Dfa) : Nat := d.accepting.size

def row (d : Dfa) (s : StateId) : Array (Option StateId) := d.rows.getD s #[]

/-- The state after one byte. -/
def next? (d : Dfa) (s : StateId) (b : UInt8) : Option StateId :=
  ((d.row s)[d.classes.get b]?).join

/-- The state after a byte string. -/
def walk? (d : Dfa) (s : StateId) (bytes : List UInt8) : Option StateId :=
  bytes.foldlM d.next? s

def isAccepting (d : Dfa) (s : StateId) : Bool := d.accepting.getD s false

/-- Whether the automaton accepts a byte string. -/
def accepts (d : Dfa) (bytes : List UInt8) : Bool :=
  (d.walk? start bytes).any d.isAccepting

def acceptingStates (d : Dfa) : List StateId :=
  (List.range d.size).filter d.isAccepting

def transitionCount (d : Dfa) : Nat :=
  d.rows.foldl (fun n row => n + row.countP Option.isSome) 0

/-- The automaton as an index sees it. -/
def toByteAutomaton (d : Dfa) : ByteAutomaton where
  start := start
  size := d.size
  next? := d.next?
  isAccepting := d.isAccepting
  row := d.row

instance : Coe Dfa ByteAutomaton := ⟨toByteAutomaton⟩

@[simp] theorem toByteAutomaton_start (d : Dfa) : d.toByteAutomaton.start = start := rfl

@[simp] theorem toByteAutomaton_size (d : Dfa) : d.toByteAutomaton.size = d.size := rfl

@[simp] theorem toByteAutomaton_isAccepting (d : Dfa) :
    d.toByteAutomaton.isAccepting = d.isAccepting := rfl

@[simp] theorem toByteAutomaton_walk? (d : Dfa) : d.toByteAutomaton.walk? = d.walk? := rfl

theorem rowsDecide (d : Dfa) : d.toByteAutomaton.RowsDecide := by
  intro s _ s' _ h
  funext b
  change d.row s = d.row s' at h
  change d.next? s b = d.next? s' b
  rw [next?, h, next?]

/-- The states that some class leads to. -/
def successors (d : Dfa) (s : StateId) : List StateId :=
  (d.row s).toList.filterMap id

/-- Keep the states that are reachable and from which an accepting state can be reached, numbered
breadth-first; nothing if the start is not among them. -/
def trim? (d : Dfa) : Option Dfa :=
  let preds := predecessors d.size d.successors
  let live := reachable d.size (fun s => preds.getD s []) d.acceptingStates
  if live.contains start then
    let order := breadthFirst d.size (fun s => (d.successors s).filter live.contains) start
    let number : Array (Option StateId) :=
      (List.range order.size).foldl (fun number i =>
        number.setIfInBounds (order.getD i 0) (some i)) (Array.replicate d.size none)
    some {
      classes := d.classes
      rows := order.map fun s => (d.row s).map fun t => t.bind fun t => number.getD t none
      accepting := order.map d.isAccepting }
  else
    none

end Dfa

end ConstrainedDecoding.Automaton
