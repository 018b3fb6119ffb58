import ConstrainedDecoding.Json.Record
import ConstrainedDecoding.Tokenizer.Model

/-! Models as they are written in files. -/

namespace ConstrainedDecoding.Tokenizer.File

open Json

/-- Words with their ids. -/
def lexicon? : Json → Option Lexicon
  | .object members => do
    let entries ← members.mapM fun (key, v) => do return (← key, ← v.word? 32)
    return .ofList entries
  | _ => none

/-- A merge written as two words with a blank between them, or as an array of two words. -/
def merge? : Json → Option (String × String)
  | .array [.string (some a), .string (some b)] => some (a, b)
  | .string (some s) =>
    match s.splitOn " " with
    | [a, b] => some (a, b)
    | _ => none
  | _ => none

/-- Merges are all written in the same way. Text that begins with a version has no meaning. -/
def merges? : Json → Option (List (String × String))
  | .array items =>
    if items.all (·.text?.isSome) then
      (items.filter fun j => !(j.text?.any (·.startsWith "#version"))).mapM merge?
    else if items.all (·.items?.isSome) then items.mapM merge?
    else none
  | _ => none

/-- A share, which is between nothing and all in single precision. -/
def share? (j : Json) : Option Float := do
  let x := (← j.float?).toFloat32.toFloat
  if 0 ≤ x ∧ x ≤ 1 then some x else none

def bytePair? (j : Json) : Option Model := do
  let fields ← j.members? ["vocab", "merges", "dropout", "unk_token", "continuing_subword_prefix",
    "end_of_word_suffix", "fuse_unk", "byte_fallback", "ignore_merges"]
  let lexicon ← fields.get? "vocab" lexicon?
  let pairs ← fields.get? "merges" merges?
  let continuingPrefix ← fields.optional? "continuing_subword_prefix" (·.text?)
  return .bytePair {
    lexicon, continuingPrefix
    merges := ← BytePair.mergesOfPairs? lexicon (continuingPrefix.getD "").utf8ByteSize pairs
    unknown := ← fields.optional? "unk_token" (·.text?)
    endSuffix := ← fields.optional? "end_of_word_suffix" (·.text?)
    fuseUnknown := (← fields.optional? "fuse_unk" (·.bool?)).getD false
    byteFallback := (← fields.optional? "byte_fallback" (·.bool?)).getD false
    ignoresMerges := (← fields.optional? "ignore_merges" (·.bool?)).getD false
    dropout := (← fields.optional? "dropout" share?).getD 0 }

def wordPiece? (j : Json) : Option Model := do
  let fields ← j.members?
    ["vocab", "unk_token", "continuing_subword_prefix", "max_input_chars_per_word"]
  return .wordPiece {
    lexicon := ← fields.get? "vocab" lexicon?
    unknown := ← fields.get? "unk_token" (·.text?)
    continuingPrefix := ← fields.get? "continuing_subword_prefix" (·.text?)
    maxChars := ← fields.get? "max_input_chars_per_word" (·.word? 64) }

def wordLevel? (j : Json) : Option Model := do
  let fields ← j.members? ["vocab", "unk_token"]
  return .wordLevel (← fields.get? "vocab" lexicon?) (← fields.get? "unk_token" (·.text?))

def score? : Json → Option (String × Float)
  | .array [.string (some word), score] => score.float?.map (word, ·)
  | _ => none

def unigram? (j : Json) : Option Model := do
  let fields ← j.members? ["vocab", "unk_id", "byte_fallback"]
  let scores ← fields.get? "vocab" (list? score?)
  let unknown ← fields.optional? "unk_id" (·.word? 64)
  if unknown.any (scores.length ≤ ·) then none
  return .unigram {
    lexicon := .ofList (scores.zipIdx.map fun ((word, _), id) => (word, id))
    scores := scores.toArray, unknown
    byteFallback := ← fields.getD? "byte_fallback" (·.bool?) false }

def modelKinds : List (Kind Model) :=
  [⟨"BPE", bytePair?⟩, ⟨"WordPiece", wordPiece?⟩, ⟨"WordLevel", wordLevel?⟩, ⟨"Unigram", unigram?⟩]

/-- A model whose type is not known is none at all. -/
def model? (j : Json) : Option Model :=
  if (j.get? "type").isSome && (j.tag? (modelKinds.map (·.tag))).isNone then none
  else j.ofKinds? modelKinds

end ConstrainedDecoding.Tokenizer.File
