import ConstrainedDecoding.Json.Basic
import Std.Data.HashSet

/-!
Records and variants in JSON. A record is written as an object, or as an array of its fields in
order. A variant is written as its name, or as an object that maps its name to what it holds.
-/

namespace ConstrainedDecoding.Json

/-- Of entries with one key only the last is kept. -/
def lastEntries (members : List (Option String × Json)) : List (Option String × Json) :=
  (members.foldr (fun entry (kept, seen) =>
    if seen.contains entry.1 then (kept, seen) else (entry :: kept, seen.insert entry.1))
    ([], (∅ : Std.HashSet (Option String)))).1

mutual

/-- The value in which no object names a member twice: of members with one name the last counts. -/
def settle : Json → Json
  | array items => array (settleItems items)
  | object members => object (lastEntries (settleMembers members))
  | v => v

def settleItems : List Json → List Json
  | [] => []
  | v :: vs => v.settle :: settleItems vs

def settleMembers : List (Option String × Json) → List (Option String × Json)
  | [] => []
  | (key, v) :: ms => (key, v.settle) :: settleMembers ms

end

/-- The fields of a record that are there. -/
abbrev Fields := List (String × Json)

/-- The fields of an object, which may have other members, but no field twice. -/
def members? (names : List String) : Json → Option Fields
  | object members => do
    let keys ← members.mapM (·.1)
    let fields := (keys.zip (members.map (·.2))).filter (names.contains ·.1)
    if (fields.map (·.1)).Nodup then some fields else none
  | _ => none

/-- The fields of a record of which an array may leave out the last ones. -/
def openRecord? (names : List String) : Json → Option Fields
  | array items => if items.length ≤ names.length then some (names.zip items) else none
  | j => j.members? names

/-- The fields of a record of which an array has all. -/
def record? (names : List String) : Json → Option Fields
  | array items => if items.length = names.length then some (names.zip items) else none
  | j => j.members? names

namespace Fields

/-- A field that has to be there. -/
def get? {α : Type} (fields : Fields) (name : String) (read : Json → Option α) : Option α :=
  (fields.lookup name).bind read

/-- A field that may be missing. -/
def getD? {α : Type} (fields : Fields) (name : String) (read : Json → Option α) (default : α) :
    Option α :=
  match fields.lookup name with
  | none => some default
  | some v => read v

end Fields

/-- A value that may be null. -/
def nullable? {α : Type} (read : Json → Option α) : Json → Option (Option α)
  | null => some none
  | v => (read v).map some

/-- A field that may be missing or null. -/
def Fields.optional? {α : Type} (fields : Fields) (name : String) (read : Json → Option α) :
    Option (Option α) :=
  fields.getD? name (nullable? read) none

/-- The name of a variant, with what it holds. -/
def variant? : Json → Option (String × Option Json)
  | string s => s.map (·, none)
  | object [(key, v)] => key.map (·, some v)
  | _ => none

/-- The name of a variant that holds nothing. -/
def unit? (j : Json) : Option String :=
  match j.variant? with
  | some (name, none) | some (name, some null) => some name
  | _ => none

/-- A variant that holds nothing and has a known name. -/
def unitOf? {α : Type} (variants : List (String × α)) (j : Json) : Option α :=
  j.unit?.bind fun name => variants.lookup name

/-- Read every item of an array. -/
def list? {α : Type} (read : Json → Option α) (j : Json) : Option (List α) :=
  j.items?.bind (·.mapM read)

def char? (j : Json) : Option Char := do
  match (← j.text?).toList with
  | [c] => some c
  | _ => none

def float? : Json → Option Float
  | number n => n.toFloat?
  | _ => none

/-- One of the kinds of a component: the name that selects it, and how it is read. -/
structure Kind (α : Type) where
  tag : String
  read : Json → Option α

/-- The tag of an object that has exactly one, among known ones. The value that goes with it has the
tag written as a name. -/
def tag? (tags : List String) : Json → Option (String × Json)
  | object members =>
    match members.filter (·.1 == some "type") with
    | [(_, v)] =>
      match v.unit? with
      | some tag =>
        let others := members.filter (·.1 != some "type")
        if tags.contains tag then
          some (tag, settle (object ((some "type", string (some tag)) :: others)))
        else none
      | none => none
    | _ => none
  | _ => none

/-- A value with a tag is of the kind that the tag selects. Any other is of the first kind that it
can be read as. -/
def ofKinds? {α : Type} (kinds : List (Kind α)) (j : Json) : Option α :=
  match j.tag? (kinds.map (·.tag)) with
  | some (tag, v) => (kinds.find? (·.tag == tag)).bind (·.read v)
  | none => kinds.findSome? (·.read j.settle)

end ConstrainedDecoding.Json
