import ConstrainedDecoding.Tokenizer.CharacterMap
import ConstrainedDecoding.Tokenizer.Encoding
import ConstrainedDecoding.Tokenizer.Expression.Basic
import ConstrainedDecoding.Tokenizer.Split
import ConstrainedDecoding.Unicode.LowerCase
import ConstrainedDecoding.Unicode.Version
import ConstrainedDecoding.Unicode.WhiteSpace

/-! Changing texts before they are split. -/

namespace ConstrainedDecoding.Tokenizer

/-- Steps for texts in which words are separated by spaces. -/
structure WordCleaning where
  /-- Drop controls, and make all white space spaces. -/
  cleansText : Bool
  /-- Put spaces around ideographs. -/
  spacesIdeographs : Bool
  stripsAccents : Bool
  lowersCase : Bool

inductive Normalizer
  | words (steps : WordCleaning)
  /-- Drop white space at the ends. -/
  | strip (left right : Bool)
  /-- Drop marks. -/
  | stripMarks
  | form (f : Unicode.NormalForm)
  | lowercase
  /-- Drop controls, and make spaces of what separates or joins words. -/
  | separators
  | mapped (m : CharacterMap)
  | replace (e : Expression) (content : List Char)
  /-- Put a text in front of texts that are not empty. -/
  | prepend (text : List Char)
  /-- Write bytes as visible characters. -/
  | byteLevel
  | sequence (parts : List Normalizer)

/-- Write something for every character. -/
def Aligned.flatMapChars (f : Char → List Char) (text : Aligned) : Aligned :=
  text.flatMap fun g => placed g.origin (f g.char)

/-- Keep the characters with a property. -/
def Aligned.filterChars (p : Char → Bool) (text : Aligned) : Aligned := text.filter (p ·.char)

def Aligned.normalize (f : Unicode.NormalForm) (text : Aligned) : Aligned :=
  .apply (f.apply text.chars) text

def Aligned.byteLevel (text : Aligned) : Aligned :=
  text.flatMapChars fun c => (Utf8.encode [c]).map TokenEncoding.byteToChar

/-- The segments of a text at the matches of an expression. -/
def Expression.segments (e : Expression) (text : Aligned) : List Segment :=
  segmentsAt 0 (e.spans text.chars) text

namespace Normalizer

def isIdeograph (c : Char) : Bool :=
  let ranges := [(0x4E00, 0x9FFF), (0x3400, 0x4DBF), (0x20000, 0x2A6DF), (0x2A700, 0x2B73F),
    (0x2B740, 0x2B81F), (0x2B920, 0x2CEAF), (0xF900, 0xFAFF), (0x2F800, 0x2FA1F)]
  ranges.any fun (lo, hi) => lo ≤ c.toNat && c.toNat ≤ hi

/-- Controls other than those that are white space, and what takes the place of unreadable text. -/
def isDropped (c : Char) : Bool :=
  c = '\x00' || c = '\ufffd' ||
    (!(c = '\t' || c = '\n' || c = '\r') && Unicode.controls8.get.contains c)

def applyWords (steps : WordCleaning) (text : Aligned) : Aligned :=
  let text :=
    if steps.cleansText then
      (text.filterChars (!isDropped ·)).flatMapChars fun c =>
        [if Unicode.isWhiteSpace c then ' ' else c]
    else text
  let text :=
    if steps.spacesIdeographs then
      text.flatMapChars fun c => if isIdeograph c then [' ', c, ' '] else [c]
    else text
  let text :=
    if steps.stripsAccents then
      (text.normalize ⟨false, false⟩).filterChars (!Unicode.nonspacingMarks8.get.contains ·)
    else text
  if steps.lowersCase then text.flatMapChars Unicode.toLower else text

/-- Controls that stand for nothing between words. -/
def isSilent (c : Char) : Bool :=
  let n := c.toNat
  (1 ≤ n && n ≤ 8) || n = 0x0B || (0x0E ≤ n && n ≤ 0x1F) || n = 0x7F || n = 0x8F || n = 0x9F

def isSeparator (c : Char) : Bool :=
  let n := c.toNat
  n = 9 || n = 0x0A || n = 0x0C || n = 0x0D || n = 0x1680 || (0x200B ≤ n && n ≤ 0x200F) ||
    n = 0x2028 || n = 0x2029 || n = 0x2581 || n = 0xFEFF || n = 0xFFFD

/-- Write a text in the place of each match. It goes back to where the last character before its
end was. -/
def applyReplace (content : List Char) (last : Nat) : List Segment → Aligned
  | [] => []
  | (text, isMatch) :: segments =>
    let last := (text.getLast?.map (·.origin)).getD last
    (if isMatch then .placed last content else text) ++ applyReplace content last segments

mutual

def apply : Normalizer → Aligned → Aligned
  | words steps, text => applyWords steps text
  | strip left right, text =>
    let isSpace (g : Glyph) : Bool := Unicode.isWhiteSpace g.char
    let text := if left then text.dropWhile isSpace else text
    if right then (text.reverse.dropWhile isSpace).reverse else text
  | stripMarks, text => text.filterChars (!Unicode.marks12.get.contains ·)
  | form f, text => text.normalize f
  | lowercase, text => text.flatMapChars Unicode.toLower
  | separators, text =>
    (text.filterChars (!isSilent ·)).flatMapChars fun c => [if isSeparator c then ' ' else c]
  | mapped m, text => .apply (m.edits text.chars) text
  | replace e content, text =>
    if text.isEmpty then [] else applyReplace content text.start (e.segments text)
  | prepend content, text =>
    if text.isEmpty then [] else .placed text.start content ++ text
  | byteLevel, text => text.byteLevel
  | sequence parts, text => applyAll parts text

def applyAll : List Normalizer → Aligned → Aligned
  | [], text => text
  | part :: parts, text => applyAll parts (part.apply text)

end

/-- What becomes of a text that is its own origin. -/
def chars (n : Option Normalizer) (text : List Char) : List Char :=
  match n with
  | none => text
  | some n => (n.apply (.ofChars text)).chars

end Normalizer

end ConstrainedDecoding.Tokenizer
