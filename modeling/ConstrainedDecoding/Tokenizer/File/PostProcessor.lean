import ConstrainedDecoding.Tokenizer.File.Decoder
import ConstrainedDecoding.Tokenizer.PostProcessor

/-! Post-processors as they are written in files, where the first kind that fits counts. -/

namespace ConstrainedDecoding.Tokenizer.File

open Json

/-- A word and its id. -/
def word? : Json → Option Unit
  | .array [word, id] => do
    let _ ← word.text?
    let _ ← id.word? 32
  | _ => none

def templatePiece? (j : Json) : Option TemplatePiece := do
  let (kind, content) ← j.variant?
  let fields ← (← content).record? ["id", "type_id"]
  let _ ← fields.get? "type_id" (·.word? 32)
  match kind with
  | "Sequence" => fields.get? "id" (unitOf? [("A", .first), ("B", .second)])
  | "SpecialToken" => fields.get? "id" fun id => id.text?.map fun _ => .special
  | _ => none

def specialToken? : Json → Option Unit :=
  recordOf? [textField "id", ("ids", check? (list? (·.word? 32))),
    ("tokens", check? (list? (·.text?)))]

def specialTokens? : Json → Option Unit
  | .object members => members.forM fun (key, v) => do
    let _ ← key
    specialToken? v
  | _ => none

def template? (j : Json) : Option PostProcessor := do
  let fields ← j.record? ["single", "pair", "special_tokens"]
  let _ ← fields.get? "special_tokens" specialTokens?
  return .template (← fields.get? "single" (list? templatePiece?))
    (← fields.get? "pair" (list? templatePiece?))

/-- A post-processor, of which `depth` bounds the nesting. -/
def postProcessor? : (depth : Nat) → Json → Option PostProcessor
  | 0, _ => none
  | depth + 1, j =>
    let neutral (read : Json → Option Unit) : Option PostProcessor :=
      (read j).map fun _ => .neutral
    let ends := [("sep", word?), ("cls", word?)]
    neutral (recordOf? (ends ++ [boolField "trim_offsets", boolField "add_prefix_space"])) <|>
    neutral (recordOf? ends) <|>
    neutral (check? byteLevel?) <|>
    template? j <|>
    do
      let fields ← typed? "Sequence" ["processors"] j
      return .sequence (← fields.get? "processors" (list? (postProcessor? depth)))

end ConstrainedDecoding.Tokenizer.File
