import ConstrainedDecoding.Tokenizer.Basic
import ConstrainedDecoding.Tokenizer.File.AddedToken
import ConstrainedDecoding.Tokenizer.File.Length
import ConstrainedDecoding.Tokenizer.File.Model
import ConstrainedDecoding.Tokenizer.File.Normalizer
import ConstrainedDecoding.Tokenizer.File.PostProcessor

/-! Tokenizers as they are written in files. -/

namespace ConstrainedDecoding.Tokenizer

namespace File

open Json

/-- The members of a file that have been read. -/
structure Draft where
  model : Option Model := none
  added : List AddedToken := []
  normalizer : Option Normalizer := none
  preTokenizer : Option PreTokenizer := none
  postProcessor : Option PostProcessor := none
  truncation : Option Truncation := none
  padding : Option Padding := none

/-- A component, all of whose text has to be sound. -/
def component? {α : Type} (read : (depth : Nat) → Json → Option α) (j : Json) : Option α :=
  if j.isSound (maxDepth - 1) then read maxDepth j else none

namespace Draft

/-- Read one member of a file. There are no others than these, and one that is given again counts
anew. -/
def read? (d : Draft) (key : String) (j : Json) : Option Draft := do
  match key with
  | "version" => if (← j.text?) = "1.0" then return d else none
  | "truncation" => return { d with truncation := ← nullable? truncation? j }
  | "padding" => return { d with padding := ← nullable? padding? j }
  | "added_tokens" =>
    return { d with added := ← component? (fun _ => list? addedToken?) j }
  | "normalizer" => return { d with normalizer := ← nullable? (component? normalizer?) j }
  | "pre_tokenizer" => return { d with preTokenizer := ← nullable? (component? preTokenizer?) j }
  | "model" => return { d with model := some (← component? (fun _ => model?) j) }
  | "post_processor" =>
    return { d with postProcessor := ← nullable? (component? postProcessor?) j }
  | "decoder" =>
    let _ ← nullable? (component? decoder?) j
    return d
  | _ => none

def finish? (d : Draft) : Option Tokenizer := do
  let model ← d.model
  return {
    model, added := .ofList model d.added, normalizer := d.normalizer
    preTokenizer := d.preTokenizer, postProcessor := d.postProcessor
    truncation := d.truncation, padding := d.padding }

end Draft

end File

def ofJson? : Json → Option Tokenizer
  | .object members => do
    let draft ← members.foldlM (fun (d : File.Draft) (key, v) => do d.read? (← key) v) {}
    draft.finish?
  | _ => none

end ConstrainedDecoding.Tokenizer
