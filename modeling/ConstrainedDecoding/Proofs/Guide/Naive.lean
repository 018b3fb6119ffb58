import ConstrainedDecoding.Proofs.Except
import ConstrainedDecoding.Proofs.Guide.Live
import Mathlib

/-! The tables of an automaton are those that come out when every token is tried in every state.
Shared walks, the trie and the order of the edges leave no trace in them, and neither do special tokens. -/
namespace ConstrainedDecoding.Guide
open Automaton (ByteAutomaton)
open Relation (ReflTransGen)

variable {a : ByteAutomaton} {v v' : Vocabulary} {options : IndexOptions} {s s' : StateId} {t t' : TokenId}

/-- An automaton for `a+`. Its two states go on alike, and one of them accepts. -/
def aPlus : ByteAutomaton where
  start := 0
  size := 2
  next? s b := if s < 2 ∧ b = 97 then some 1 else none
  isAccepting s := s == 1
  row _ := #[none, some 1]

def plainVocabulary : Vocabulary where
  entries := #[{ kind := .text, bytes := [97] }, { kind := .special }, { kind := .text, bytes := [97, 97] },
    { kind := .text }, { kind := .endOfSequence }, { kind := .special }]
  eos := 4
  eosIds_entries := by decide

end ConstrainedDecoding.Guide
