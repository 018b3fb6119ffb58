import ConstrainedDecoding.Tokenizer.AddedTokens
import ConstrainedDecoding.Tokenizer.Length
import ConstrainedDecoding.Tokenizer.PostProcessor

/-! Tokenizers: pipelines that turn texts into ids. -/

namespace ConstrainedDecoding

structure Tokenizer where
  model : Tokenizer.Model
  added : Tokenizer.AddedTokens
  normalizer : Option Tokenizer.Normalizer
  preTokenizer : Option Tokenizer.PreTokenizer
  postProcessor : Option Tokenizer.PostProcessor
  truncation : Option Tokenizer.Truncation
  padding : Option Tokenizer.Padding

namespace Tokenizer

/-- The id of a word; added tokens come first. -/
def id? (t : Tokenizer) (word : String) : Option TokenId :=
  (t.added.id? word).or (t.model.lexicon.id? word)

/-- The word with an id; added tokens come first. -/
def word? (t : Tokenizer) (id : TokenId) : Option String :=
  ((t.added.token? id).map (·.content)).or (t.model.word? id)

/-- One more than the largest id. The id that a word has in the model does not count if the word is
an added token. -/
def size (t : Tokenizer) : Nat :=
  t.model.lexicon.ids.fold (fun m word id =>
    if (t.added.id? word).isSome then m else max m (id + 1)) t.added.bound

/-- Split the pieces of a text further. -/
def split (t : Tokenizer) : AddedTokens.Part → Except EncodeError (List AddedTokens.Part)
  | .token id => .ok [.token id]
  | .piece p => do
    match t.preTokenizer with
    | none => return [.piece p]
    | some s => return (← s.apply p).map .piece

/-- The ids of a part of a text. -/
def partIds (t : Tokenizer) : AddedTokens.Part → Except EncodeError (List TokenId)
  | .token id => .ok [id]
  | .piece p => t.model.tokenize p.chars

/-- The ids of a text, without tokens that are put around texts. -/
def encode (t : Tokenizer) (text : String) : Except EncodeError (List TokenId) := do
  let parts ← t.added.parts t.normalizer text.toList
  let pieces := (← parts.mapM t.split).flatten
  let ids := (← pieces.mapM t.partIds).flatten
  let ids ← (t.truncation.map (·.apply ids)).getD (.ok ids)
  let texts ← (t.postProcessor.map (·.apply [ids])).getD (.ok [ids])
  return (t.padding.map (·.apply texts.flatten)).getD texts.flatten

end Tokenizer

end ConstrainedDecoding
