import ConstrainedDecoding.Tokenizer.Lexicon

/-! What becomes of the ids of texts in the end, where no special tokens are put around them. -/

namespace ConstrainedDecoding.Tokenizer

/-- A place of a template. -/
inductive TemplatePiece
  | first
  | second
  /-- A special token, which is left out. -/
  | special
deriving DecidableEq

inductive PostProcessor
  /-- Leaves ids as they are. -/
  | neutral
  /-- Arranges the ids of one text, or of two. -/
  | template (single pair : List TemplatePiece)
  | sequence (parts : List PostProcessor)

namespace PostProcessor

/-- Fill in a template. -/
def fill (texts : List (List TokenId)) : List TemplatePiece →
    Except EncodeError (List (List TokenId))
  | [] => .ok []
  | .special :: pieces => fill texts pieces
  | .first :: pieces => do return texts.headD [] :: (← fill texts pieces)
  | .second :: pieces =>
    match texts with
    | _ :: second :: _ => do return second :: (← fill texts pieces)
    | _ => .error .impossible

mutual

def apply : PostProcessor → List (List TokenId) → Except EncodeError (List (List TokenId))
  | neutral, texts => .ok texts
  | template single pair, texts =>
    match texts with
    | [_] => fill texts single
    | [_, _] => fill texts pair
    | _ => .error .impossible
  | sequence parts, texts => applyAll parts texts

def applyAll : List PostProcessor → List (List TokenId) → Except EncodeError (List (List TokenId))
  | [], texts => .ok texts
  | part :: parts, texts => do applyAll parts (← part.apply texts)

end

end PostProcessor

end ConstrainedDecoding.Tokenizer
