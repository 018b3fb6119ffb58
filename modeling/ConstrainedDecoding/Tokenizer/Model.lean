import ConstrainedDecoding.Tokenizer.BytePair
import ConstrainedDecoding.Tokenizer.Unigram
import ConstrainedDecoding.Tokenizer.WordPiece

/-! The ways to turn a piece of text into ids. -/

namespace ConstrainedDecoding.Tokenizer

inductive Model
  | bytePair (m : BytePair)
  | wordPiece (m : WordPiece)
  /-- A piece is one word. -/
  | wordLevel (lexicon : Lexicon) (unknown : String)
  | unigram (m : Unigram)

namespace Model

def lexicon : Model → Lexicon
  | bytePair m => m.lexicon
  | wordPiece m => m.lexicon
  | wordLevel l _ => l
  | unigram m => m.lexicon

def size : Model → Nat
  | unigram m => m.scores.size
  | m => m.lexicon.size

/-- The word with an id. -/
def word? (m : Model) (id : TokenId) : Option String :=
  match m with
  | unigram m => m.scores[id]?.map (·.1)
  | m => m.lexicon.word? id

def tokenize : Model → List Char → Except EncodeError (List TokenId)
  | bytePair m, text => m.tokenize text
  | wordPiece m, text => m.tokenize text
  | wordLevel l unknown, text =>
    match (l.id? (String.ofList text)).or (l.id? unknown) with
    | some id => .ok [id]
    | none => .error .wordLevelUnknown
  | unigram m, text => m.tokenize text

end Model

end ConstrainedDecoding.Tokenizer
