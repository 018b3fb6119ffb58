import ConstrainedDecoding.Automaton.Nfa

/-!
Automata put together one state at a time. A fragment ends in a state that does not know its target yet;
the state is patched when the next fragment is there.
-/

namespace ConstrainedDecoding.Automaton

open Pattern (Expr)

/-- Stands for a target that is not known yet. -/
def unset : StateId := 4294967295

/-- Point a state at a target; a choice gets one more alternative. -/
def NfaState.patch (t : StateId) : NfaState → NfaState
  | .range lo hi _ => .range lo hi t
  | .epsilon _ => .epsilon t
  | .union alternatives => .union (alternatives ++ [t])
  | .anchor a _ => .anchor a t
  | .accept => .accept

/-- States from `start` on that are left through `stop`. -/
structure Fragment where
  start : StateId
  stop : StateId

/-- What is done to an automaton besides adding states. -/
inductive BuildEvent
  | patched (s t : StateId)
  /-- A fragment is there, and this is the state that it ends in. -/
  | made (f : Fragment) (last : Option NfaState)

/-- An automaton that is not finished, and what has been done to it, last first. -/
structure Builder where
  states : Array NfaState
  events : List BuildEvent

namespace Builder

def push (b : Builder) (q : NfaState) : Builder := { b with states := b.states.push q }

def patch (b : Builder) (s t : StateId) : Builder :=
  { states := b.states.modify s (·.patch t), events := .patched s t :: b.events }

def note (b : Builder) (f : Fragment) : Builder :=
  { b with events := .made f b.states[f.stop]? :: b.events }

end Builder

/-- Something that is built. -/
abbrev Build (α : Type) := StateT Builder (Except Error) α

namespace Build

def add (limits : CompileLimits) (q : NfaState) : Build StateId := fun b =>
  if b.states.size < limits.nfaStates then .ok (b.states.size, b.push q)
  else .error (.tooComplex .nfaStates limits.nfaStates)

def patch (s t : StateId) : Build Unit := modify (·.patch s t)

def fragment (start stop : StateId) : Build Fragment := do
  modify (·.note ⟨start, stop⟩)
  return ⟨start, stop⟩

/-- A fragment of one state. -/
def single (limits : CompileLimits) (q : NfaState) : Build Fragment := do
  let s ← add limits q
  fragment s s

/-- Go on from a fragment with others, one after the other. -/
def follow (f : Fragment) : List (Build Fragment) → Build Fragment
  | [] => return f
  | part :: parts => do
    let next ← part
    patch f.stop next.start
    follow (← fragment f.start next.stop) parts

def sequence (limits : CompileLimits) : List (Build Fragment) → Build Fragment
  | [] => single limits (.epsilon unset)
  | part :: parts => do follow (← part) parts

/-- Add fragments between a choice and the state after it. -/
def branches (start stop : StateId) : List (Build Fragment) → Build Unit
  | [] => return ()
  | part :: parts => do
    let branch ← part
    patch start branch.start
    patch branch.stop stop
    branches start stop parts

def alternation (limits : CompileLimits) (parts : List (Build Fragment)) : Build Fragment := do
  let start ← add limits (.union [])
  let stop ← add limits (.epsilon unset)
  branches start stop parts
  fragment start stop

def chain (limits : CompileLimits) (s : ByteSequence) : Build Fragment :=
  sequence limits (s.map fun r => single limits (.range r.lo r.hi unset))

def bytes (limits : CompileLimits) : List ByteSequence → Build Fragment
  | [s] => chain limits s
  | alternatives => alternation limits (alternatives.map (chain limits))

/-- Copies after a fragment, before each of which `out` can be taken. -/
def options (limits : CompileLimits) (part : Build Fragment) (out : StateId) :
    Nat → Fragment → Build Fragment
  | 0, f => return f
  | n + 1, f => do
    let split ← add limits (.union [])
    patch f.stop split
    patch split out
    let copy ← part
    patch split copy.start
    options limits part out n (← fragment f.start copy.stop)

/-- Any number of copies after a fragment. -/
def loop (limits : CompileLimits) (part : Build Fragment) (f : Fragment) : Build Fragment := do
  let split ← add limits (.union [])
  let out ← add limits (.epsilon unset)
  let body ← part
  patch f.stop split
  patch split body.start
  patch body.stop split
  patch split out
  fragment f.start out

/-- What a repetition can have after the copies that it must have. -/
def rest (limits : CompileLimits) (part : Build Fragment) (min : Nat) (f : Fragment) :
    Option Nat → Build Fragment
  | none => loop limits part f
  | some m => do
    if min < m then
      let out ← add limits (.epsilon unset)
      let last ← options limits part out (m - min) f
      patch last.stop out
      fragment f.start out
    else
      return f

def repetition (limits : CompileLimits) (part : Build Fragment) (min : Nat) (max : Option Nat) :
    Build Fragment := do
  if limits.repetition < min || max.any (limits.repetition < ·) then
    throw (.tooComplex .repetition limits.repetition)
  let f ← follow (← single limits (.epsilon unset)) (List.replicate min part)
  rest limits part min f max

mutual

def ofExpr (limits : CompileLimits) : Expr → Build Fragment
  | .empty => single limits (.epsilon unset)
  | .literal bs => chain limits (bs.map .single)
  | .scalars set => bytes limits (set.flatMap ByteSequence.ofInterval)
  | .bytes set => bytes limits (set.map fun r => [r])
  | .assertion a => do single limits (.anchor (← Plan.anchorOf a) unset)
  | .repetition sub min max _ => repetition limits (ofExpr limits sub) min max
  | .capture _ sub => ofExpr limits sub
  | .concat es => sequence limits (ofExprs limits es)
  | .alternation es => alternation limits (ofExprs limits es)

def ofExprs (limits : CompileLimits) : List Expr → List (Build Fragment)
  | [] => []
  | e :: es => ofExpr limits e :: ofExprs limits es

end

/-- Build all of an automaton and give its start. -/
def automaton (limits : CompileLimits) (e : Expr) : Build StateId := do
  let f ← ofExpr limits e
  let last ← add limits .accept
  patch f.stop last
  return f.start

end Build

/-- An expression's automaton as it is built, and all that was done for it. -/
def Builder.ofExpr (limits : CompileLimits) (e : Expr) : Except Error (Nfa × List BuildEvent) := do
  let (start, b) ← (Build.automaton limits e).run { states := #[], events := [] }
  return ({ states := b.states, start }, b.events)

end ConstrainedDecoding.Automaton
