import ConstrainedDecoding.Text.Numeral
import ConstrainedDecoding.Utf8.Encode

/-! How the words of a tokenizer stand for bytes. -/

namespace ConstrainedDecoding

inductive TokenEncoding
  /-- Every byte is a visible character. -/
  | byteLevel
  /-- A space is a lower block; with `byteFallback`, single bytes have words of their own. -/
  | sentencePiece (byteFallback : Bool)
  /-- A word stands for itself. -/
  | raw
deriving DecidableEq

namespace TokenEncoding

/-- Bytes that stand for themselves in byte-level words. -/
def isVisible (b : UInt8) : Bool :=
  (0x21 ≤ b && b ≤ 0x7E) || (0xA1 ≤ b && b ≤ 0xAC) || 0xAE ≤ b

/-- All other bytes, ascending. -/
def shiftedBytes : List UInt8 :=
  ((List.range 256).map (·.toUInt8)).filter (!isVisible ·)

/-- The character for a byte in byte-level words. Bytes that do not stand for themselves take the
characters from U+0100 on. -/
def byteToChar (b : UInt8) : Char :=
  Char.ofNat (if isVisible b then b.toNat else 0x100 + shiftedBytes.idxOf b)

/-- The byte for a character in byte-level words. -/
def charToByte? (c : Char) : Option UInt8 :=
  if c.toNat < 0x100 then some c.toNat.toUInt8 |>.filter isVisible
  else shiftedBytes[c.toNat - 0x100]?

/-- The byte of a word such as `<0x0A>`, with a numeral of two bytes between its ends. -/
def byteOfWord? : List Char → Option UInt8
  | '<' :: '0' :: 'x' :: rest =>
    let numeral := rest.dropLast
    if rest.getLast? = some '>' && (Utf8.encode numeral).length = 2 then
      (Numeral.read? 16 255 numeral).map (·.toUInt8)
    else none
  | _ => none

/-- The character that stands for a space. -/
def lowerBlock : Char := '\u2581'

/-- The characters with spaces in the place of lower blocks. -/
def restoreSpaces (word : List Char) : List Char :=
  word.map fun c => if c = lowerBlock then ' ' else c

/-- The bytes that a word stands for. A word with characters outside of the byte-level alphabet
stands for itself. -/
def decode (e : TokenEncoding) (word : String) : List UInt8 :=
  let cs := word.toList
  match e with
  | byteLevel => (cs.mapM charToByte?).getD (Utf8.encode cs)
  | sentencePiece false => Utf8.encode (restoreSpaces cs)
  | sentencePiece true =>
    match byteOfWord? cs with
    | some b => [b]
    | none => Utf8.encode (restoreSpaces cs)
  | raw => Utf8.encode cs

end TokenEncoding

end ConstrainedDecoding
