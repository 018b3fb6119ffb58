import ConstrainedDecoding.Json.Token

/-! JSON values, read from a text by a machine that takes one token at a time. -/

namespace ConstrainedDecoding

/-- A JSON text as a tree. Strings are missing where an escape is half of a character, and an object
may name a member more than once. -/
inductive Json
  | null
  | bool (b : Bool)
  | number (n : Json.Number)
  | string (s : Option String)
  | array (items : List Json)
  | object (members : List (Option String × Json))

namespace Json

/-- A container that is not closed yet, with what it holds, last first. -/
inductive Container
  | array (items : List Json)
  /-- The value of `key` is still to come. -/
  | object (members : List (Option String × Json)) (key : Option String)

/-- What has been read, inside the containers `outer`. -/
inductive Progress
  | beforeValue (outer : List Container)
  | afterBeginArray (outer : List Container)
  | afterBeginObject (outer : List Container)
  | beforeKey (members : List (Option String × Json)) (outer : List Container)
  | beforeColon (members : List (Option String × Json)) (key : Option String)
      (outer : List Container)
  | afterValue (value : Json) (outer : List Container)

/-- Take the first token of a value. -/
def begin? (outer : List Container) : Token → Option Progress
  | .null => some (.afterValue .null outer)
  | .bool b => some (.afterValue (.bool b) outer)
  | .number n => some (.afterValue (.number n) outer)
  | .string s => some (.afterValue (.string s) outer)
  | .beginArray => some (.afterBeginArray outer)
  | .beginObject => some (.afterBeginObject outer)
  | _ => none

def step : Progress → Token → Option Progress
  | .beforeValue outer, t => begin? outer t
  | .afterBeginArray outer, .endArray => some (.afterValue (.array []) outer)
  | .afterBeginArray outer, t => begin? (.array [] :: outer) t
  | .afterBeginObject outer, .endObject => some (.afterValue (.object []) outer)
  | .afterBeginObject outer, .string key => some (.beforeColon [] key outer)
  | .beforeKey members outer, .string key => some (.beforeColon members key outer)
  | .beforeColon members key outer, .colon => some (.beforeValue (.object members key :: outer))
  | .afterValue v (.array items :: outer), .comma =>
    some (.beforeValue (.array (v :: items) :: outer))
  | .afterValue v (.array items :: outer), .endArray =>
    some (.afterValue (.array (v :: items).reverse) outer)
  | .afterValue v (.object members key :: outer), .comma =>
    some (.beforeKey ((key, v) :: members) outer)
  | .afterValue v (.object members key :: outer), .endObject =>
    some (.afterValue (.object ((key, v) :: members).reverse) outer)
  | _, _ => none

/-- The value that a text stands for. -/
def parse? (text : String) : Option Json := do
  match ← (← Token.ofChars text.toList).foldlM step (.beforeValue []) with
  | .afterValue v [] => some v
  | _ => none

mutual

/-- Whether a value has its strings, finite numbers and at most `depth` nested containers. -/
def isSound (depth : Nat) : Json → Bool
  | null | bool _ => true
  | number n => n.isFinite
  | string s => s.isSome
  | array items => 0 < depth && areSound (depth - 1) items
  | object members => 0 < depth && membersAreSound (depth - 1) members

def areSound (depth : Nat) : List Json → Bool
  | [] => true
  | v :: vs => v.isSound depth && areSound depth vs

def membersAreSound (depth : Nat) : List (Option String × Json) → Bool
  | [] => true
  | (key, v) :: ms => key.isSome && v.isSound depth && membersAreSound depth ms

end

/-- How deep containers may be nested. -/
def maxDepth : Nat := 127

/-- The value that a text stands for, if nothing in it is unsound. -/
def ofString? (text : String) : Option Json :=
  (parse? text).filter (isSound maxDepth)

/-- A member of an object. The last one of a name counts. -/
def get? (key : String) : Json → Option Json
  | object members => (members.reverse.find? (·.1 == some key)).map (·.2)
  | _ => none

def text? : Json → Option String
  | string s => s
  | _ => none

def bool? : Json → Option Bool
  | bool b => some b
  | _ => none

def items? : Json → Option (List Json)
  | array items => some items
  | _ => none

/-- An integer that fits an unsigned word of so many bits. -/
def word? (bits : Nat) : Json → Option Nat
  | number n => n.word? bits
  | _ => none

end Json

end ConstrainedDecoding
