import ConstrainedDecoding.Json.Record
import ConstrainedDecoding.Tokenizer.AddedTokens

/-! Added tokens as they are written in files. -/

namespace ConstrainedDecoding.Tokenizer.File

open Json

/-- The ids in files are not used: added tokens are numbered anew. -/
def addedToken? (j : Json) : Option AddedToken := do
  let fields ← j.members?
    ["id", "content", "single_word", "lstrip", "rstrip", "normalized", "special"]
  let _ ← fields.get? "id" (·.word? 32)
  return {
    content := ← fields.get? "content" (·.text?)
    singleWord := ← fields.get? "single_word" (·.bool?)
    takesLeft := ← fields.get? "lstrip" (·.bool?)
    takesRight := ← fields.get? "rstrip" (·.bool?)
    normalized := ← fields.get? "normalized" (·.bool?)
    special := ← fields.get? "special" (·.bool?) }

end ConstrainedDecoding.Tokenizer.File
