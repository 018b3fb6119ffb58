import ConstrainedDecoding.Decoding.Processor
import ConstrainedDecoding.Generation.KeyStream

/-! Walks through guides: sequences of tokens that are chosen by their scores. -/

namespace ConstrainedDecoding

structure Walk where
  tokens : List TokenId
  /-- Whether the token that ends a sequence was chosen after them. -/
  complete : Bool
deriving DecidableEq

namespace Walk

inductive Failure
  | refused (cause : Error)
  /-- No score is left to choose by. -/
  | stuck
deriving DecidableEq

/-- The larger one of the best score so far and a score at a position, and of equal ones the latter. -/
def better {α : Type} [LT α] [DecidableLT α] (best : Option (α × TokenId)) :
    Option α × TokenId → Option (α × TokenId)
  | (none, _) => best
  | (some score, id) =>
    if best.any (score < ·.1) then best else some (score, id)

/-- The position of the largest score, which is the last one among equals. -/
def best? {α : Type} [LT α] [DecidableLT α] (scores : List (Option α)) : Option TokenId :=
  (scores.zipIdx.foldl better none).map (·.2)

/-- The walk of at most `count` steps, the first of which is `step`; `scores` gives the scores of each.
The token that ends a sequence ends the walk and is not part of it. -/
def ofScores {α : Type} [LT α] [DecidableLT α] (scores : Nat → List (Option α)) :
    (count step : Nat) → Option TokenId → Processor → Except Failure Walk
  | 0, _, _, _ => .ok { tokens := [], complete := false }
  | count + 1, step, last, p =>
    let left := p.process none 0 last (scores step)
    match left.result with
    | .error e => .error (.refused e)
    | .ok () =>
      match best? left.logits with
      | none => .error .stuck
      | some token =>
        if token = p.guide.eos then .ok { tokens := [], complete := true }
        else do
          let rest ← ofScores scores count (step + 1) (some token) left.after
          return { rest with tokens := token :: rest.tokens }

/-- Random scores for one step: the upper 24 bits of as many words as there are tokens. -/
def scores (seed : UInt64) (size step : Nat) : List (Option Nat) :=
  (KeyStream.words seed (step * size) size).map fun word => some (word.toNat / 256)

end Walk

/-- The random walk of a seed from the start of a guide. -/
def Guide.walk (g : Guide) (seed : UInt64) (count : Nat) : Except Walk.Failure Walk :=
  Walk.ofScores (Walk.scores seed g.vocabularySize) count 0 none (.ofGuide g)

end ConstrainedDecoding
