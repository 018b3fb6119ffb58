import ConstrainedDecoding.Tokenizer.Detect
import ConstrainedDecoding.Tokenizer.File.Basic
import ConstrainedDecoding.Vocabulary.Basic

/-! The vocabularies of tokenizers, and which of their tokens ends a sequence. -/

namespace ConstrainedDecoding

namespace Tokenizer

/-- Words that end a sequence by convention, the most likely first. -/
def eosWords : List String := ["</s>", "<|endoftext|>", "<|im_end|>", "<|eot_id|>", "<eos>"]

/-- The id that a configuration gives for the end of a sequence, cut to a word of 32 bits, or else
that of the token it names. -/
def declaredEos? (t : Tokenizer) (config : Json) : Option TokenId :=
  match (config.get? "eos_token_id").bind (·.word? 64) with
  | some id => some (id % Vocabulary.idCount)
  | none => do
    let token ← config.get? "eos_token"
    t.id? (← token.text?.or ((token.get? "content").bind (·.text?)))

/-- The token that ends a sequence. The configuration that lies beside a tokenizer comes first; its
text is missing if it cannot be read. -/
def resolveEos? (t : Tokenizer) (config : Option String) : Option TokenId :=
  (((config.bind Json.ofString?).bind t.declaredEos?)).or (eosWords.findSome? t.id?)

/-- The bytes of a token. Special tokens have none, and neither have ids without a word. -/
def bytes? (t : Tokenizer) (encoding : TokenEncoding) (id : TokenId) : Option (List UInt8) :=
  match t.added.token? id with
  | some added => if added.special then none else some (Utf8.encode added.content.toList)
  | none => (t.model.word? id).map encoding.decode

end Tokenizer

namespace Vocabulary

def ofTokenizer (t : Tokenizer) (encoding : TokenEncoding) (eos : TokenId) :
    Except Error Vocabulary :=
  ofDecoder t.size eos (t.bytes? encoding)

end Vocabulary

/-- What lies in the directory of a tokenizer. Texts are missing where files cannot be read. -/
structure TokenizerFiles where
  /-- Where the tokenizer is. -/
  path : String
  tokenizer : Option String
  config : Option String

namespace TokenizerFiles

def load (f : TokenizerFiles) : Except Error Tokenizer :=
  match (f.tokenizer.bind Json.parse?).bind Tokenizer.ofJson? with
  | some t => .ok t
  | none => .error .tokenizerUnreadable

/-- The encoding that the tokenizer shows. All of the text has to be sound, also where the tokenizer
does not need it. -/
def encoding (f : TokenizerFiles) : Except Error TokenEncoding :=
  match f.tokenizer.bind Json.ofString? with
  | some j => .ok (.detect j)
  | none => .error .json

/-- The vocabulary of the tokenizer. A token that is given ends its sequences, or else the one that
the files declare. -/
def vocabulary (f : TokenizerFiles) (eos : Option TokenId) : Except Error Vocabulary := do
  let t ← f.load
  let encoding ← f.encoding
  match eos.or (t.resolveEos? f.config) with
  | none => .error (.eosUndetermined f.path)
  | some eos => Vocabulary.ofTokenizer t encoding eos

end TokenizerFiles

end ConstrainedDecoding
