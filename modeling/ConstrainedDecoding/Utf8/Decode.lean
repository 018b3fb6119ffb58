import ConstrainedDecoding.Utf8.Sequence

/-!
Decoding UTF-8. Bytes that encode no character are replaced, as many at a time as could still begin
the encoding of one.
-/

namespace ConstrainedDecoding.Utf8

/-- The ranges of the bytes that may follow a first byte. -/
def continuations (first : UInt8) : Option (List (UInt8 × UInt8)) :=
  if first < 0x80 then some []
  else if first < 0xC2 then none
  else if first < 0xE0 then some [(0x80, 0xBF)]
  else if first < 0xF0 then
    some [(if first = 0xE0 then 0xA0 else 0x80, if first = 0xED then 0x9F else 0xBF), (0x80, 0xBF)]
  else if first < 0xF5 then
    some [(if first = 0xF0 then 0x90 else 0x80, if first = 0xF4 then 0x8F else 0xBF), (0x80, 0xBF),
      (0x80, 0xBF)]
  else none

/-- How many bytes lie in the ranges that have the same position. -/
def countMatching : List (UInt8 × UInt8) → List UInt8 → Nat
  | (lo, hi) :: ranges, b :: bytes =>
    if lo ≤ b && b ≤ hi then countMatching ranges bytes + 1 else 0
  | _, _ => 0

/-- The character that a first byte and the bytes that follow it encode. -/
def character (first : UInt8) (rest : List UInt8) : Char :=
  let lead : Nat :=
    if first < 0x80 then first.toNat
    else if first < 0xE0 then first.toNat % 0x20
    else if first < 0xF0 then first.toNat % 0x10
    else first.toNat % 0x08
  Char.ofNat (rest.foldl (fun code b => 0x40 * code + b.toNat % 0x40) lead)

/-- The characters in the order of their bytes; none stands for bytes that encode no character. -/
def characters : List UInt8 → List (Option Char)
  | [] => []
  | first :: bytes =>
    match continuations first with
    | none => none :: characters bytes
    | some ranges =>
      let n := countMatching ranges bytes
      let c := if n = ranges.length then some (character first (bytes.take n)) else none
      c :: characters (bytes.drop n)
termination_by bytes => bytes.length
decreasing_by
  · simp
  · simp only [List.length_cons, List.length_drop]
    omega

/-- Whether bytes are the encoding of some characters. -/
def isValid (bytes : List UInt8) : Bool := (characters bytes).all Option.isSome

/-- The text of bytes, with a replacement character for what encodes none. -/
def decodeLossy (bytes : List UInt8) : String :=
  String.ofList ((characters bytes).map (·.getD '\ufffd'))

end ConstrainedDecoding.Utf8
