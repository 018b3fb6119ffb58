import ConstrainedDecoding.Tokenizer.File.PreTokenizer

/-!
Decoders as they are written in files. They have no part in what is done here, but a file in which
one is malformed cannot be read.
-/

namespace ConstrainedDecoding.Tokenizer.File

open Json

/-- A field that is read for its form only. -/
def check? {α : Type} (read : Json → Option α) (j : Json) : Option Unit := (read j).map fun _ => ()

/-- A record with fields of given forms. -/
def recordOf? (fields : List (String × (Json → Option Unit))) (j : Json) : Option Unit := do
  let found ← j.record? (fields.map (·.1))
  fields.forM fun (name, read) => found.get? name read

def textField (name : String) : String × (Json → Option Unit) := (name, check? (·.text?))

def boolField (name : String) : String × (Json → Option Unit) := (name, check? (·.bool?))

def sizeField (name : String) : String × (Json → Option Unit) := (name, check? (·.word? 64))

/-- Whether a decoder is well formed; `depth` bounds its nesting. -/
def decoder? : (depth : Nat) → Json → Option Unit
  | 0, _ => none
  | depth + 1, j => j.ofKinds? [
    ⟨"BPEDecoder", recordOf? [textField "suffix"]⟩,
    ⟨"ByteLevel", check? byteLevel?⟩,
    ⟨"WordPiece", recordOf? [textField "prefix", boolField "cleanup"]⟩,
    ⟨"Metaspace", check? metaspace?⟩,
    ⟨"CTC", recordOf?
      [textField "pad_token", textField "word_delimiter_token", boolField "cleanup"]⟩,
    ⟨"Sequence", fun j => do
      let fields ← typed? "Sequence" ["decoders"] j
      fields.get? "decoders" (check? (list? (decoder? depth)))⟩,
    ⟨"Replace", recordOf? [("pattern", check? pattern?), textField "content"]⟩,
    bare "Fuse" (),
    ⟨"Strip", recordOf? [("content", check? char?), sizeField "start", sizeField "stop"]⟩,
    bare "ByteFallback" ()]

end ConstrainedDecoding.Tokenizer.File
