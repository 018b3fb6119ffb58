/-! Numerals and the characters that codes stand for. -/

namespace ConstrainedDecoding

def hexDigit? (c : Char) : Option Nat :=
  if '0' ≤ c && c ≤ '9' then some (c.toNat - 48)
  else if 'a' ≤ c && c ≤ 'f' then some (c.toNat - 87)
  else if 'A' ≤ c && c ≤ 'F' then some (c.toNat - 55)
  else none

/-- The scalar value with a given code. -/
def scalar? (n : Nat) : Option Char :=
  if n < 0xD800 || (0xDFFF < n && n ≤ 0x10FFFF) then some (Char.ofNat n) else none

namespace Numeral

/-- A digit of a base up to sixteen. -/
def digit? (base : Nat) (c : Char) : Option Nat :=
  (hexDigit? c).filter (· < base)

/-- The number that digits are written for, after those that give `value`. -/
def ofDigits? (base value : Nat) (s : List Char) : Option Nat :=
  s.foldlM (fun value c => (digit? base c).map (base * value + ·)) value

/-- A number of at least one digit, perhaps after a plus sign, that is at most `bound`. -/
def read? (base bound : Nat) (s : List Char) : Option Nat :=
  let digits := if s.head? = some '+' then s.tail else s
  if digits.isEmpty then none else (ofDigits? base 0 digits).filter (· ≤ bound)

/-- A decimal number that fits a word of so many bits. -/
def ofString? (bits : Nat) (s : String) : Option Nat := read? 10 (Nat.pow 2 bits - 1) s.toList

end Numeral

end ConstrainedDecoding
