import ConstrainedDecoding.Text.Base64
import ConstrainedDecoding.Tokenizer.File.Pattern
import ConstrainedDecoding.Tokenizer.Normalizer

/-! Normalizers as they are written in files. -/

namespace ConstrainedDecoding.Tokenizer.File

open Json

def words? (j : Json) : Option Normalizer := do
  let fields ← j.record? ["clean_text", "handle_chinese_chars", "strip_accents", "lowercase"]
  let cleansText ← fields.get? "clean_text" (·.bool?)
  let spacesIdeographs ← fields.get? "handle_chinese_chars" (·.bool?)
  let stripsAccents ← fields.optional? "strip_accents" (·.bool?)
  let lowersCase ← fields.get? "lowercase" (·.bool?)
  return .words {
    cleansText, spacesIdeographs, lowersCase, stripsAccents := stripsAccents.getD lowersCase }

def strip? (j : Json) : Option Normalizer := do
  let fields ← j.record? ["strip_left", "strip_right"]
  return .strip (← fields.get? "strip_left" (·.bool?)) (← fields.get? "strip_right" (·.bool?))

def mapped? (j : Json) : Option Normalizer := do
  let text ← (← j.record? ["precompiled_charsmap"]).get? "precompiled_charsmap" (·.text?)
  return .mapped (← CharacterMap.ofBytes? (← Base64.decode? text))

def replace? (j : Json) : Option Normalizer := do
  let fields ← j.record? ["pattern", "content"]
  return .replace (← fields.get? "pattern" pattern?) (← fields.get? "content" (·.text?)).toList

def prepend? (j : Json) : Option Normalizer := do
  return .prepend (← (← j.record? ["prepend"]).get? "prepend" (·.text?)).toList

/-- A normalizer, of which `depth` bounds the nesting. -/
def normalizer? : (depth : Nat) → Json → Option Normalizer
  | 0, _ => none
  | depth + 1, j => j.ofKinds? [
    ⟨"Bert", words?⟩,
    ⟨"Strip", strip?⟩,
    bare "StripAccents" .stripMarks,
    bare "NFC" (.form ⟨false, true⟩),
    bare "NFD" (.form ⟨false, false⟩),
    bare "NFKC" (.form ⟨true, true⟩),
    bare "NFKD" (.form ⟨true, false⟩),
    ⟨"Sequence", fun j => do
      let parts ← (← j.record? ["normalizers"]).get? "normalizers" (list? (normalizer? depth))
      return .sequence parts⟩,
    bare "Lowercase" .lowercase,
    bare "Nmt" .separators,
    ⟨"Precompiled", mapped?⟩,
    ⟨"Replace", replace?⟩,
    ⟨"Prepend", prepend?⟩,
    bare "ByteLevel" .byteLevel]

end ConstrainedDecoding.Tokenizer.File
