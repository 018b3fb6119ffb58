import ConstrainedDecoding.Error
import ConstrainedDecoding.Pattern.Expr
import ConstrainedDecoding.Settings

/-!
Nondeterministic automata over bytes, built from expressions. A fragment occupies consecutive states
and starts at the first of them; `Plan.states` lists them, given the number of the first and the
state to go on with.
-/

namespace ConstrainedDecoding.Automaton

open Pattern (Expr)

/-- Assertions that an automaton can check: before the first byte, and after the last one. -/
inductive Anchor
  | start
  | stop
deriving DecidableEq

inductive NfaState
  | range (lo hi : UInt8) (next : StateId)
  | epsilon (next : StateId)
  | union (alternatives : List StateId)
  | anchor (a : Anchor) (next : StateId)
  | accept
deriving DecidableEq

structure Nfa where
  states : Array NfaState
  start : StateId

/-- An expression as it is laid out in states: classes are byte sequences, groups are gone. -/
inductive Plan
  | bytes (alternatives : List ByteSequence)
  | anchor (a : Anchor)
  | append (first second : Plan)
  | alternation (parts : List Plan)
  | repetition (sub : Plan) (min : Nat) (max : Option Nat)

/-- States of a chain of ranges; an empty chain takes one state. -/
def chainSize : ByteSequence → Nat
  | [] => 1
  | s => s.length

namespace Plan

/-- How many states fragments of given sizes take together. -/
def total (sizes : List Nat) : Nat := sizes.foldr (· + ·) 0

/-- The plan of the empty string. -/
def empty : Plan := .bytes [[]]

def sequence : List Plan → Plan
  | [] => empty
  | [part] => part
  | part :: parts => .append part (sequence parts)

mutual

/-- How many states a plan takes. -/
def size : Plan → Nat
  | .bytes [s] => chainSize s
  | .bytes alternatives => total (alternatives.map chainSize) + 2
  | .anchor _ => 1
  | .append first second => first.size + second.size
  | .alternation parts => total (sizes parts) + 2
  | .repetition sub min max =>
    let n := sub.size
    1 + min * n +
      match max with
      | none => n + 2
      | some m => if min < m then (m - min) * (n + 1) + 1 else 0

def sizes : List Plan → List Nat
  | [] => []
  | part :: parts => part.size :: sizes parts

end

/-- The first states of fragments of given sizes that follow each other. -/
def starts (base : StateId) : List Nat → List StateId
  | [] => []
  | n :: ns => base :: starts (base + n) ns

def chain (base exit : StateId) : ByteSequence → List NfaState
  | [] => [.epsilon exit]
  | [r] => [.range r.lo r.hi exit]
  | r :: s => .range r.lo r.hi (base + 1) :: chain (base + 1) exit s

/-- Chains that all go on with the same state. -/
def chains (base exit : StateId) : List ByteSequence → List NfaState
  | [] => []
  | s :: ss => chain base exit s ++ chains (base + chainSize s) exit ss

mutual

/-- The states of a plan from `base` on, going on with `exit`. -/
def states (base exit : StateId) : Plan → List NfaState
  | .bytes [s] => chain base exit s
  | .bytes alternatives =>
    .union (starts (base + 2) (alternatives.map chainSize)) :: .epsilon exit ::
      chains (base + 2) (base + 1) alternatives
  | .anchor a => [.anchor a exit]
  | .append first second =>
    let middle := base + first.size
    first.states base middle ++ second.states middle exit
  | .alternation parts =>
    .union (starts (base + 2) (sizes parts)) :: .epsilon exit ::
      branches (base + 2) (base + 1) parts
  | .repetition sub min max =>
    let n := sub.size
    -- the state after the mandatory copies, and where they lead
    let rest := base + 1 + min * n
    let after :=
      match max with
      | none => rest
      | some m => if min < m then rest + 1 else exit
    let target (i : Nat) : StateId := if i < min then base + 1 + i * n else after
    .epsilon (target 0) ::
      (List.range min).flatMap (fun i => sub.states (base + 1 + i * n) (target (i + 1))) ++
      match max with
      | none => .union [rest + 2, rest + 1] :: .epsilon exit :: sub.states (rest + 2) rest
      | some m =>
        if min < m then
          .epsilon exit :: (List.range (m - min)).flatMap fun j =>
            let split := rest + 1 + j * (n + 1)
            let next := if j + 1 < m - min then split + n + 1 else rest
            .union [rest, split + 1] :: sub.states (split + 1) next
        else []

/-- Fragments that all go on with the same state. -/
def branches (base exit : StateId) : List Plan → List NfaState
  | [] => []
  | part :: parts => part.states base exit ++ branches (base + part.size) exit parts

end

/-- Account for `n` more states after `count` of them. -/
def reserve (limits : CompileLimits) (count n : Nat) : Except Error Nat :=
  if count + n ≤ limits.nfaStates then .ok (count + n)
  else .error (.tooComplex .nfaStates limits.nfaStates)

def anchorOf : Pattern.Assertion → Except Error Anchor
  | .start => .ok .start
  | .stop => .ok .stop
  | a => .error (.unsupportedAssertion a)

/-- A plan without parts after `count` states, and the count after it. -/
def leaf (limits : CompileLimits) (count : Nat) (plan : Plan) : Except Error (Plan × Nat) := do
  return (plan, ← reserve limits count plan.size)

/-- States of a repetition that come before the first copy of its body. -/
def leadSize (min : Nat) (max : Option Nat) : Nat :=
  if 0 < min ∨ max = some 0 then 1 else 3

mutual

/-- The plan of an expression that comes after `count` states, and the count after it. What is
refused is refused in the order in which the states are numbered. -/
def ofExpr (limits : CompileLimits) (count : Nat) : Expr → Except Error (Plan × Nat)
  | .empty => leaf limits count empty
  | .literal bs => leaf limits count (.bytes [bs.map .single])
  | .scalars set => leaf limits count (.bytes (set.flatMap ByteSequence.ofInterval))
  | .bytes set => leaf limits count (.bytes (set.map fun r => [r]))
  | .assertion a => do leaf limits count (.anchor (← anchorOf a))
  | .capture _ sub => ofExpr limits count sub
  | .concat [] => leaf limits count empty
  | .concat (e :: es) => do
    let (part, count) ← ofExpr limits count e
    let (parts, count) ← ofExprs limits count es
    return (sequence (part :: parts), count)
  | .alternation es => do
    let (parts, count) ← ofExprs limits (← reserve limits count 2) es
    return (.alternation parts, count)
  | .repetition sub min max _ => do
    if limits.repetition < min || max.any (limits.repetition < ·) then
      .error (.tooComplex .repetition limits.repetition)
    let lead ← reserve limits count (leadSize min max)
    if min = 0 ∧ max = some 0 then
      return (empty, lead)
    let (part, _) ← ofExpr limits lead sub
    leaf limits count (.repetition part min max)

def ofExprs (limits : CompileLimits) (count : Nat) : List Expr → Except Error (List Plan × Nat)
  | [] => .ok ([], count)
  | e :: es => do
    let (part, count) ← ofExpr limits count e
    let (parts, count) ← ofExprs limits count es
    return (part :: parts, count)

end

end Plan

/-- The automaton of an expression. Its last state is the accepting one. -/
def Nfa.ofExpr (limits : CompileLimits) (e : Expr) : Except Error Nfa := do
  let (plan, count) ← Plan.ofExpr limits 0 e
  let _ ← Plan.reserve limits count 1
  return { states := (plan.states 0 count ++ [NfaState.accept]).toArray, start := 0 }

end ConstrainedDecoding.Automaton
