/-! Bytes written with sixty-four digits, four digits for three bytes. -/

namespace ConstrainedDecoding.Base64

def digit? (c : Char) : Option Nat :=
  if 'A' ≤ c && c ≤ 'Z' then some (c.toNat - 65)
  else if 'a' ≤ c && c ≤ 'z' then some (c.toNat - 71)
  else if '0' ≤ c && c ≤ '9' then some (c.toNat + 4)
  else if c = '+' then some 62
  else if c = '/' then some 63
  else none

/-- The bytes of digits. Bits that are left over at the end have to be zero. -/
def bytes? : List Nat → Option (List UInt8)
  | [] => some []
  | [_] => none
  | [a, b] => if b % 16 = 0 then some [(4 * a + b / 16).toUInt8] else none
  | [a, b, c] =>
    if c % 4 = 0 then some [(4 * a + b / 16).toUInt8, (b % 16 * 16 + c / 4).toUInt8] else none
  | a :: b :: c :: d :: ds =>
    (bytes? ds).map fun bytes =>
      (4 * a + b / 16).toUInt8 :: (b % 16 * 16 + c / 4).toUInt8 :: (c % 4 * 64 + d).toUInt8 :: bytes

/-- The bytes of a text. Equals signs may fill up the last four places. -/
def decode? (text : String) : Option (List UInt8) := do
  let digits := text.toList.takeWhile (· ≠ '=')
  let filling := text.toList.drop digits.length
  let room := if digits.length % 4 < 2 then 0 else 4 - digits.length % 4
  if filling.all (· = '=') && filling.length ≤ room then bytes? (← digits.mapM digit?) else none

end ConstrainedDecoding.Base64
