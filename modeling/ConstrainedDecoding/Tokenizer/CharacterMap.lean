import ConstrainedDecoding.Unicode.Cluster
import ConstrainedDecoding.Unicode.Normalization
import ConstrainedDecoding.Utf8.Decode
import ConstrainedDecoding.Utf8.Encode

/-!
Maps from short texts to others, kept in one block of bytes: the size of a trie, its units, and the
texts that its leaves point to, each of which ends with a zero byte.
-/

namespace ConstrainedDecoding.Tokenizer

/-- A trie is kept as an array, in which the unit for a byte lies at the offset of its parent
combined with that byte. -/
structure CharacterMap where
  units : Array Nat
  texts : List UInt8

namespace CharacterMap

/-- A number of four bytes, the lowest first. -/
def word? : List UInt8 → Option (Nat × List UInt8)
  | a :: b :: c :: d :: bytes =>
    some (a.toNat + 256 * (b.toNat + 256 * (c.toNat + 256 * d.toNat)), bytes)
  | _ => none

def readUnits? : (count : Nat) → List UInt8 → Option (List Nat × List UInt8)
  | 0, bytes => some ([], bytes)
  | count + 1, bytes => do
    let (unit, bytes) ← word? bytes
    let (units, bytes) ← readUnits? count bytes
    return (unit :: units, bytes)

def ofBytes? (bytes : List UInt8) : Option CharacterMap := do
  let (size, bytes) ← word? bytes
  if bytes.length < size / 4 * 4 then none
  let (units, texts) ← readUnits? (size / 4) bytes
  if Utf8.isValid texts then some { units := units.toArray, texts } else none

/-- Where the children of a unit lie. -/
def offset (unit : Nat) : Nat := if unit / 512 % 2 = 1 then unit / 1024 * 256 else unit / 1024

/-- The byte of a unit; a leaf has none. -/
def byte? (unit : Nat) : Option Nat := if unit < 2147483648 then some (unit % 256) else none

/-- The leaf for the shortest text that a key begins with. `node` is where the children lie of what
has been read. -/
def leaf? (m : CharacterMap) (node : Nat) : List UInt8 → Option Nat
  | [] => none
  | b :: key => do
    if b = 0 then none
    let node := node ^^^ b.toNat
    let unit ← m.units[node]?
    if byte? unit ≠ some b.toNat then none
    let node := node ^^^ offset unit
    if unit / 256 % 2 = 1 then return (← m.units[node]?) % 2147483648
    else leaf? m node key

/-- What a text is mapped to, by the shortest text in the map that it begins with. -/
def find? (m : CharacterMap) (text : List Char) : Option (List Char) := do
  let root ← m.units[0]?
  let start ← m.leaf? (offset root) (Utf8.encode text)
  if m.texts.length < start then none
  (Utf8.characters ((m.texts.drop start).takeWhile (· ≠ 0))).mapM id

/-- Append the edits that write a text in the place of another one. They are kept last first; what
is dropped is dropped after the last character that is written, if there is one at all. -/
def replaceEdits (edits : List Unicode.Edit) (old new : List Char) : List Unicode.Edit :=
  let added := new.mapIdx fun i c => (c, if i < old.length then (0 : Int) else 1)
  let edits := added.reverse ++ edits
  match edits with
  | (c, change) :: rest => (c, change - (old.length - new.length : Nat)) :: rest
  | [] => []

/-- Map clusters that take fewer bytes than this as a whole. -/
def shortCluster : Nat := 6

/-- Map the clusters of a text that are short and known, and the characters of all others. -/
def edits (m : CharacterMap) (text : List Char) : List Unicode.Edit :=
  let characters (edits : List Unicode.Edit) (cluster : List Char) : List Unicode.Edit :=
    cluster.foldl (fun edits c => replaceEdits edits [c] ((m.find? [c]).getD [c])) edits
  let step (edits : List Unicode.Edit) (cluster : List Char) : List Unicode.Edit :=
    match if (Utf8.encode cluster).length < shortCluster then m.find? cluster else none with
    | some new => replaceEdits edits cluster new
    | none => characters edits cluster
  ((Unicode.clusters text).foldl step []).reverse

end CharacterMap

end ConstrainedDecoding.Tokenizer
