import ConstrainedDecoding.Json.Record
import ConstrainedDecoding.Tokenizer.Expression.Reader

/-! What steps of a tokenizer look for, as it is written in a file. -/

namespace ConstrainedDecoding.Tokenizer.File

open Json

/-- A literal text or an expression. -/
def pattern? (j : Json) : Option Expression := do
  match ← j.variant? with
  | ("String", some v) => return .literal (← v.text?).toList
  | ("Regex", some v) => Expression.ofString? (← v.text?)
  | _ => none

/-- Whether the member that names the type of a component has a value. -/
def hasType (name : String) (j : Json) : Bool := (j.unitOf? [(name, ())]).isSome

/-- A component without settings is a record of its type. -/
def bare {α : Type} (name : String) (a : α) : Kind α where
  tag := name
  read j := do if hasType name (← (← j.record? ["type"]).get? "type" some) then some a else none

/-- The fields of an object of a type, where an array is not one. -/
def typed? (name : String) (names : List String) (j : Json) : Option Fields := do
  let fields ← j.members? ("type" :: names)
  if hasType name (← fields.get? "type" some) then some fields else none

end ConstrainedDecoding.Tokenizer.File
