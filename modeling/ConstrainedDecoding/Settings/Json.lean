import ConstrainedDecoding.Error
import ConstrainedDecoding.Json.Record
import ConstrainedDecoding.Settings

/-!
Settings in JSON. A record is written as an object, or as an array of its fields in order; in both,
fields that are not there keep their defaults.
-/

namespace ConstrainedDecoding

namespace Settings

def compileLimits? (v : Json) : Option CompileLimits := do
  let fields ←
    v.openRecord? ["max_pattern_len", "max_repetition", "max_nfa_states", "max_dfa_states"]
  let default : CompileLimits := {}
  return {
    patternLength := ← fields.getD? "max_pattern_len" (·.word? 64) default.patternLength
    repetition := ← fields.getD? "max_repetition" (·.word? 32) default.repetition
    nfaStates := ← fields.getD? "max_nfa_states" (·.word? 64) default.nfaStates
    dfaStates := ← fields.getD? "max_dfa_states" (·.word? 64) default.dfaStates }

def indexOptions? (v : Json) : Option IndexOptions := do
  let fields ← v.openRecord? ["parallel", "skip_empty_tokens"]
  return {
    parallel := ← fields.getD? "parallel" (·.bool?) ({} : IndexOptions).parallel
    skipEmptyTokens :=
      ← fields.getD? "skip_empty_tokens" (·.bool?) ({} : IndexOptions).skipEmptyTokens }

def cacheOptions? (v : Json) : Option CacheOptions := do
  let fields ← v.openRecord? ["capacity"]
  return {
    capacity :=
      ← fields.getD? "capacity" (Json.nullable? (·.word? 64)) ({} : CacheOptions).capacity }

def ofJson? (v : Json) : Option Settings := do
  let fields ← v.openRecord? ["compile", "index", "cache"]
  return {
    compile := ← fields.getD? "compile" compileLimits? {}
    index := ← fields.getD? "index" indexOptions? {}
    cache := ← fields.getD? "cache" cacheOptions? {} }

def ofJson (v : Json) : Except Error Settings :=
  match ofJson? v with
  | some s => .ok s
  | none => .error .json

/-- The settings that a text gives. -/
def ofText (text : String) : Except Error Settings :=
  match Json.parse? text with
  | some v => ofJson v
  | none => .error .json

/-- The settings of a file, whose text is missing if it cannot be read. -/
def ofFile : Option String → Except Error Settings
  | none => .error .io
  | some text => ofText text

end Settings

end ConstrainedDecoding
