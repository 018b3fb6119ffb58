import ConstrainedDecoding.Tokenizer.Lexicon

/-! Texts that are split into the longest known words, from left to right. -/

namespace ConstrainedDecoding.Tokenizer

structure WordPiece where
  lexicon : Lexicon
  unknown : String
  continuingPrefix : String
  /-- Longer texts are unknown. -/
  maxChars : Nat

namespace WordPiece

/-- The longest word at the front of a text that has at most `n` characters, with its length. -/
def longest? (m : WordPiece) (isFirst : Bool) (text : List Char) :
    (n : Nat) → Option (TokenId × Nat)
  | 0 => none
  | n + 1 =>
    let start := if isFirst then [] else m.continuingPrefix.toList
    match m.lexicon.id? (String.ofList (start ++ text.take (n + 1))) with
    | some id => some (id, n + 1)
    | none => longest? m isFirst text n

/-- The words of a text, unless some part of it is no word; `fuel` bounds their number. -/
def words? (m : WordPiece) (isFirst : Bool) : (fuel : Nat) → List Char → Option (List TokenId)
  | _, [] => some []
  | 0, _ => none
  | fuel + 1, text => do
    let (id, n) ← m.longest? isFirst text text.length
    return id :: (← words? m false fuel (text.drop n))

def tokenize (m : WordPiece) (text : List Char) : Except EncodeError (List TokenId) :=
  match if text.length ≤ m.maxChars then m.words? true text.length text else none with
  | some ids => .ok ids
  | none =>
    match m.lexicon.id? m.unknown with
    | some id => .ok [id]
    | none => .error .wordPieceUnknown

end WordPiece

end ConstrainedDecoding.Tokenizer
