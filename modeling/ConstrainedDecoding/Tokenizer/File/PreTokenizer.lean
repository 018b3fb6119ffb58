import ConstrainedDecoding.Tokenizer.File.Pattern
import ConstrainedDecoding.Tokenizer.PreTokenizer

/-! Pre-tokenizers as they are written in files. -/

namespace ConstrainedDecoding.Tokenizer.File

open Json

def scheme? : Json → Option PrependScheme :=
  unitOf? [("first", .first), ("never", .never), ("always", .always)]

def behavior? : Json → Option SplitBehavior :=
  unitOf? [("Removed", .removed), ("Isolated", .isolated),
    ("MergedWithPrevious", .mergedWithPrevious), ("MergedWithNext", .mergedWithNext),
    ("Contiguous", .contiguous)]

def byteLevel? (j : Json) : Option PreTokenizer := do
  let fields ← typed? "ByteLevel" ["add_prefix_space", "trim_offsets", "use_regex"] j
  let addsSpace ← fields.get? "add_prefix_space" (·.bool?)
  let _ ← fields.get? "trim_offsets" (·.bool?)
  return .byteLevel addsSpace (← fields.getD? "use_regex" (·.bool?) true)

def delimiter? (j : Json) : Option PreTokenizer := do
  let fields ← typed? "CharDelimiterSplit" ["delimiter"] j
  return .delimiter (← fields.get? "delimiter" char?)

/-- The older way to ask for no space in front has to agree with the newer one. -/
def metaspace? (j : Json) : Option PreTokenizer := do
  let fields ← j.record?
    ["type", "replacement", "add_prefix_space", "prepend_scheme", "split", "str_rep"]
  if !hasType "Metaspace" (← fields.get? "type" some) then none
  let replacement ← fields.get? "replacement" char?
  let addsSpace ← fields.optional? "add_prefix_space" (·.bool?)
  let scheme ← fields.getD? "prepend_scheme" scheme? .always
  let splits ← fields.optional? "split" (·.bool?)
  let _ ← fields.optional? "str_rep" (·.text?)
  if addsSpace = some false ∧ scheme ≠ .never then none
  return .metaspace replacement scheme (splits.getD true)

def split? (j : Json) : Option PreTokenizer := do
  let fields ← j.record? ["type", "pattern", "behavior", "invert"]
  if !hasType "Split" (← fields.get? "type" some) then none
  return .pattern (← fields.get? "pattern" pattern?) (← fields.get? "behavior" behavior?)
    (← fields.get? "invert" (·.bool?))

def punctuation? (j : Json) : Option PreTokenizer := do
  let fields ← typed? "Punctuation" ["behavior"] j
  return .punctuation (← fields.getD? "behavior" behavior? .isolated)

def digits? (j : Json) : Option PreTokenizer := do
  let fields ← typed? "Digits" ["individual_digits"] j
  return .digits (← fields.get? "individual_digits" (·.bool?))

def fixedLength? (j : Json) : Option PreTokenizer := do
  let fields ← typed? "FixedLength" ["length"] j
  return .fixedLength (← fields.getD? "length" (·.word? 64) 5)

/-- A pre-tokenizer, of which `depth` bounds the nesting. -/
def preTokenizer? : (depth : Nat) → Json → Option PreTokenizer
  | 0, _ => none
  | depth + 1, j => j.ofKinds? [
    bare "BertPreTokenizer" .spacesAndPunctuation,
    ⟨"ByteLevel", byteLevel?⟩,
    ⟨"Delimiter", delimiter?⟩,
    ⟨"Metaspace", metaspace?⟩,
    bare "Whitespace" .words,
    ⟨"Sequence", fun j => do
      let fields ← typed? "Sequence" ["pretokenizers"] j
      return .sequence (← fields.get? "pretokenizers" (list? (preTokenizer? depth)))⟩,
    ⟨"Split", split?⟩,
    ⟨"Punctuation", punctuation?⟩,
    bare "WhitespaceSplit" .spaces,
    ⟨"Digits", digits?⟩,
    bare "UnicodeScripts" .scripts,
    ⟨"FixedLength", fixedLength?⟩]

end ConstrainedDecoding.Tokenizer.File
