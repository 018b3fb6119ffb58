import ConstrainedDecoding.Tokenizer.Lexicon

/-! Cutting and filling up sequences of ids. -/

namespace ConstrainedDecoding.Tokenizer

inductive Side
  | left
  | right
deriving DecidableEq

/-- Which of two texts is cut. -/
inductive CutStrategy
  | longestFirst
  | onlyFirst
  | onlySecond
deriving DecidableEq

structure Truncation where
  /-- The side on which ids are dropped. -/
  side : Side
  maxLength : Nat
  strategy : CutStrategy
  /-- How many ids a part that is cut off shares with the one before it. -/
  stride : Nat
deriving DecidableEq

namespace Truncation

/-- Cut the ids of a single text. -/
def apply (t : Truncation) (ids : List TokenId) : Except EncodeError (List TokenId) :=
  if ids.length ≤ t.maxLength ∨ t.maxLength = 0 then .ok (ids.take t.maxLength)
  else if t.strategy = .onlySecond then .error .noSecondText
  else if t.maxLength ≤ t.stride then .error .impossible
  else
    match t.side with
    | .right => .ok (ids.take t.maxLength)
    | .left => .ok (ids.drop (ids.length - t.maxLength))

end Truncation

structure Padding where
  side : Side
  /-- The length that is filled up to; missing if it is that of the longest text. -/
  length : Option Nat
  multiple : Option Nat
  id : TokenId
deriving DecidableEq

namespace Padding

/-- Fill up the ids of a single text. -/
def apply (p : Padding) (ids : List TokenId) : List TokenId :=
  let wanted := p.length.getD ids.length
  let wanted :=
    match p.multiple with
    | none | some 0 => wanted
    | some m => (wanted + m - 1) / m * m
  let fill := List.replicate (wanted - ids.length) p.id
  match p.side with
  | .left => fill ++ ids
  | .right => ids ++ fill

end Padding

end ConstrainedDecoding.Tokenizer
