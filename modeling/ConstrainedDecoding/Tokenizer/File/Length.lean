import ConstrainedDecoding.Json.Record
import ConstrainedDecoding.Tokenizer.Length

/-! Truncation and padding as they are written in files. -/

namespace ConstrainedDecoding.Tokenizer.File

open Json

def side? : Json → Option Side := unitOf? [("Left", .left), ("Right", .right)]

def cutStrategy? : Json → Option CutStrategy :=
  unitOf? [("LongestFirst", .longestFirst), ("OnlyFirst", .onlyFirst), ("OnlySecond", .onlySecond)]

def truncation? (j : Json) : Option Truncation := do
  let fields ← j.record? ["direction", "max_length", "strategy", "stride"]
  return {
    side := ← fields.getD? "direction" side? .right
    maxLength := ← fields.get? "max_length" (·.word? 64)
    strategy := ← fields.get? "strategy" cutStrategy?
    stride := ← fields.get? "stride" (·.word? 64) }

/-- The length to fill up to, which may be that of the longest text. -/
def paddedLength? (j : Json) : Option (Option Nat) := do
  match ← j.variant? with
  | ("BatchLongest", none) | ("BatchLongest", some .null) => return none
  | ("Fixed", some n) => return some (← n.word? 64)
  | _ => none

def padding? (j : Json) : Option Padding := do
  let fields ← j.record?
    ["strategy", "direction", "pad_to_multiple_of", "pad_id", "pad_type_id", "pad_token"]
  let _ ← fields.get? "pad_type_id" (·.word? 32)
  let _ ← fields.get? "pad_token" (·.text?)
  return {
    side := ← fields.get? "direction" side?
    length := ← fields.get? "strategy" paddedLength?
    multiple := ← fields.optional? "pad_to_multiple_of" (·.word? 64)
    id := ← fields.get? "pad_id" (·.word? 32) }

end ConstrainedDecoding.Tokenizer.File
