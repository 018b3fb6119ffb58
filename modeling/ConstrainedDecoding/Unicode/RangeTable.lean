import ConstrainedDecoding.Interval

/-!
Sets of characters written as text: ranges of hexadecimal codes with blanks or line breaks between
them, such as `41-5a 61-7a aa`.
-/

namespace ConstrainedDecoding.Unicode

/-- The words of a text. -/
def words (text : String) : List String :=
  (text.splitToList Char.isWhitespace).filter (!·.isEmpty)

def hexValue (text : String) : Nat :=
  text.foldl (fun n c => 16 * n + (if c.isDigit then c.toNat - 48 else c.toNat - 87)) 0

def decodeRange (item : String) : Option (Interval Char) :=
  match item.splitOn "-" with
  | [code] => some (.single (Char.ofNat (hexValue code)))
  | [lo, hi] => some ⟨Char.ofNat (hexValue lo), Char.ofNat (hexValue hi)⟩
  | _ => none

def decodeRanges (text : String) : IntervalSet Char :=
  (words text).filterMap decodeRange

/-- Sets of characters, each under all of its normalized names. -/
abbrev RangeTable := List (List String × String)

def RangeTable.find? (table : RangeTable) (name : String) : Option (IntervalSet Char) :=
  (List.find? (·.1.contains name) table).map fun (_, text) => decodeRanges text

end ConstrainedDecoding.Unicode
