import ConstrainedDecoding.Automaton.Compile
import ConstrainedDecoding.Guide.Table

/-! Guides: patterns made ready to steer the choice of tokens of one vocabulary. -/

namespace ConstrainedDecoding

open Automaton (Dfa)

structure Guide where
  pattern : String
  dfa : Dfa
  eos : TokenId
  vocabularySize : Nat
  tables : Guide.Tables

namespace Guide

/-- The guide of an automaton that is compiled already. -/
def ofDfa (pattern : String) (d : Dfa) (v : VocabularyIndex) (options : IndexOptions) :
    Except Error Guide := do
  let tables ← Tables.ofAutomaton d v options
  return {
    pattern, dfa := d, eos := v.vocabulary.eos, vocabularySize := v.vocabulary.size, tables }

def ofPattern (settings : Settings) (pattern : String) (v : VocabularyIndex) :
    Except Error Guide := do
  ofDfa pattern (← Automaton.compile settings.compile pattern) v settings.index

def initial (_ : Guide) : StateId := Dfa.start

def terminal (g : Guide) : StateId := g.tables.terminal

/-- The tokens that may be chosen in a state, ascending. -/
def allowedTokens (g : Guide) (s : StateId) : List TokenId := g.tables.allowedTokens s

/-- The state after a token. -/
def advance (g : Guide) (s : StateId) (token : TokenId) : Except Error StateId :=
  match g.tables.next? s token with
  | some next => .ok next
  | none => .error (.invalidTransition s token)

/-- Whether a sequence may end in a state. Without allowed tokens it may not, even where the
automaton accepts. -/
def isFinal (g : Guide) (s : StateId) : Bool :=
  s == g.terminal || (g.dfa.isAccepting s && !(g.allowedTokens s).isEmpty)

/-- Replace the entries that are not at the position of an allowed token; the first entry is at
position `id`. -/
def maskFrom {α : Type} (masked : α) (id : TokenId) : List TokenId → List α → List α
  | _, [] => []
  | [], _ :: xs => masked :: maskFrom masked (id + 1) [] xs
  | token :: tokens, x :: xs =>
    if token = id then x :: maskFrom masked (id + 1) tokens xs
    else masked :: maskFrom masked (id + 1) (token :: tokens) xs

/-- Replace the logits of all tokens that are not allowed in a state. -/
def maskLogits {α : Type} (g : Guide) (masked : α) (s : StateId) (logits : List α) : List α :=
  maskFrom masked 0 (g.allowedTokens s) logits

/-- Overwrite a buffer with whether the tokens of its positions are allowed in a state. -/
def allowedMask (g : Guide) (s : StateId) (buffer : Array Bool) : Array Bool :=
  (g.allowedTokens s).foldl (·.setIfInBounds · true) (buffer.map fun _ => false)

end Guide

end ConstrainedDecoding
