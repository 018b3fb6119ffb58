import ConstrainedDecoding.Automaton.ByteAutomaton
import ConstrainedDecoding.Automaton.Search
import ConstrainedDecoding.Settings
import ConstrainedDecoding.Vocabulary.Index
import Std.Data.HashMap

/-!
Which tokens are allowed in which state of an automaton, and where they lead. The states are those
of the automaton and a terminal one after them, which the end of the sequence leads to.
-/

namespace ConstrainedDecoding.Guide

open Automaton (ByteAutomaton)

/-- The tokens that can be taken from a state, with the states they lead to. -/
abbrev Edges := List (TokenId × StateId)

/-- The tokens below a node whose bytes an automaton can read from a state. `depth` bounds how many
levels of the trie there are. -/
def walkTrie (a : ByteAutomaton) (t : Trie) : (depth : Nat) → NodeId → StateId → Edges
  | 0, _, _ => []
  | depth + 1, node, s =>
    (t.tokens node).map (·, s) ++
      (t.children node).flatMap fun (b, child) =>
        match a.next? s b with
        | some next => walkTrie a t depth child next
        | none => []

/-- The walks from all states. States with equal rows share one, because a walk depends on its state
through the row alone. -/
def walks (a : ByteAutomaton) (t : Trie) : Array Edges :=
  let start : Std.HashMap (Array (Option StateId)) Edges × Array Edges := (∅, #[])
  ((List.range a.size).foldl (fun (known, out) s =>
    match known[a.row s]? with
    | some edges => (known, out.push edges)
    | none =>
      let edges := walkTrie a t t.size Trie.root s
      (known.insert (a.row s) edges, out.push edges)) start).2

/-- The edges of a state in the order of their tokens. Tokens without bytes stay, and the end of the
sequence is marked in accepting states. -/
def stateEdges (a : ByteAutomaton) (v : VocabularyIndex) (emptyTokens : List TokenId) (walk : Edges)
    (s : StateId) : Edges :=
  let stay := emptyTokens.map (·, s)
  let stop := if a.isAccepting s then [(v.vocabulary.eos, s)] else []
  (walk ++ stay ++ stop).mergeSort fun p q => p.1 ≤ q.1

def allEdges (a : ByteAutomaton) (v : VocabularyIndex) (options : IndexOptions) : Array Edges :=
  let emptyTokens := if options.skipEmptyTokens then [] else v.emptyTokens
  (walks a v.trie).mapIdx fun s walk => stateEdges a v emptyTokens walk s

/-- The states that tokens lead to from the start, and from which tokens lead to an accepting one.
-/
def liveStates (a : ByteAutomaton) (edges : Array Edges) : Marks :=
  let targets (s : StateId) : List StateId := (edges.getD s []).map (·.2)
  let found := reachable a.size targets [a.start]
  let others (s : StateId) : List StateId :=
    if found.contains s then (targets s).filter (· ≠ s) else []
  let preds := predecessors a.size others
  reachable a.size (fun s => preds.getD s []) (a.acceptingStates.filter found.contains)

/-- The edges of a state that remain: those between live states, with the end of the sequence
leading to the terminal state. -/
def prune (live : Marks) (eos : TokenId) (terminal : StateId) (s : StateId) (row : Edges) : Edges :=
  if live.contains s then
    (row.filter fun (_, next) => live.contains next).map fun (token, next) =>
      (token, if token = eos then terminal else next)
  else []

/-- The allowed tokens of every state, ascending, and their targets. -/
structure Tables where
  allowed : Array (List TokenId)
  targets : Array (Std.HashMap TokenId StateId)

namespace Tables

def ofRows (rows : Array Edges) : Tables :=
  { allowed := rows.map (·.map (·.1))
    targets := rows.map fun row => row.foldl (fun m (token, next) => m.insert token next) ∅ }

/-- The tables of an automaton, unless no tokens lead from its start to an accepting state. -/
def ofAutomaton (a : ByteAutomaton) (v : VocabularyIndex) (options : IndexOptions) :
    Except Error Tables :=
  let edges := allEdges a v options
  let live := liveStates a edges
  if live.contains a.start then
    let terminal := a.size
    let eos := v.vocabulary.eos
    .ok (ofRows ((edges.mapIdx (prune live eos terminal)).push [(eos, terminal)]))
  else .error (.noTokenSequence v.vocabulary.size)

def stateCount (t : Tables) : Nat := t.allowed.size

/-- The state that the end of the sequence leads to. -/
def terminal (t : Tables) : StateId := t.stateCount - 1

def allowedTokens (t : Tables) (s : StateId) : List TokenId := t.allowed.getD s []

def next? (t : Tables) (s : StateId) (token : TokenId) : Option StateId :=
  t.targets[s]?.bind (·[token]?)

/-- The states in which some token is allowed. -/
def reachableStates (t : Tables) : List StateId :=
  (List.range t.stateCount).filter fun s => !(t.allowedTokens s).isEmpty

/-- How many tokens are allowed in all states together. -/
def entryCount (t : Tables) : Nat := t.allowed.foldl (fun n tokens => n + tokens.length) 0

def transitionCount (t : Tables) : Nat := t.targets.foldl (fun n row => n + row.size) 0

end Tables

end ConstrainedDecoding.Guide
