/-! What keeps a text from being turned into ids, with the report of each cause. -/

namespace ConstrainedDecoding.Tokenizer

inductive EncodeError
  | wordLevelUnknown
  | wordPieceUnknown
  | bytePairUnknown (word : String)
  | unigramUnknown
  | noSecondText
  /-- A step that cannot be carried out, after which nothing goes on. -/
  | impossible
deriving DecidableEq

def EncodeError.message : EncodeError → String
  | wordLevelUnknown => "WordLevel error: Missing [UNK] token from the vocabulary"
  | wordPieceUnknown => "WordPiece error: Missing [UNK] token from the vocabulary"
  | bytePairUnknown word => "Unk token `" ++ word ++ "` not found in the vocabulary"
  | unigramUnknown => "Encountered an unknown token but `unk_id` is missing"
  | noSecondText => "Truncation error: Second sequence not provided"
  | impossible => "the tokenizer asks for what cannot be done"

end ConstrainedDecoding.Tokenizer
