import ConstrainedDecoding.Text.Numeral

/-! Numbers as they are written in JSON, and the floating-point numbers they are read as. -/

namespace ConstrainedDecoding

/-- A sign, the digits before and after the point, and the exponent if there is one. -/
structure Json.Number where
  negative : Bool
  whole : List Nat
  fraction : List Nat
  exponent : Option Int
deriving DecidableEq

namespace Json.Number

/-- The decimal digits at the front of a text. -/
def digits : List Char → List Nat × List Char
  | [] => ([], [])
  | c :: cs =>
    match Numeral.digit? 10 c with
    | none => ([], c :: cs)
    | some d =>
      let (ds, rest) := digits cs
      (d :: ds, rest)

def valueOf (ds : List Nat) : Nat := ds.foldl (fun n d => 10 * n + d) 0

/-- Digits without a leading zero. -/
def whole? (s : List Char) : Option (List Nat × List Char) :=
  match digits s with
  | ([], _) => none
  | (0 :: _ :: _, _) => none
  | (ds, rest) => some (ds, rest)

/-- A point and the digits after it; no digits if there is no point. -/
def fraction? : List Char → Option (List Nat × List Char)
  | '.' :: s =>
    match digits s with
    | ([], _) => none
    | (ds, rest) => some (ds, rest)
  | s => some ([], s)

/-- All of the text as an exponent, which may be missing. -/
def exponent? : List Char → Option (Option Int)
  | [] => some none
  | c :: s =>
    if c ≠ 'e' ∧ c ≠ 'E' then none
    else
      let s' := if s.head? = some '+' ∨ s.head? = some '-' then s.tail else s
      match digits s' with
      | (d :: ds, []) =>
        let value : Int := valueOf (d :: ds)
        some (some (if s.head? = some '-' then -value else value))
      | _ => none

/-- All of the text as a number. -/
def ofChars? (s : List Char) : Option Number := do
  let negative := s.head? = some '-'
  let (whole, s) ← whole? (if negative then s.tail else s)
  let (fraction, s) ← fraction? s
  return { negative, whole, fraction, exponent := ← exponent? s }

/-- Whether there is neither a fraction nor an exponent. -/
def isInteger (n : Number) : Bool := n.fraction.isEmpty && n.exponent.isNone

/-- An integer that fits a word of so many bits. -/
def word? (bits : Nat) (n : Number) : Option Nat :=
  let value := valueOf n.whole
  if n.isInteger && !n.negative && value < Nat.pow 2 bits then some value else none

/-- The largest significand that a number is read with. -/
def maxSignificand : Nat := 18446744073709551615

/-- Append digits to a significand as long as it stays in bounds. Gives the number of digits that
were appended. -/
def appendDigits (significand : Nat) : List Nat → Nat × Nat
  | [] => (significand, 0)
  | d :: ds =>
    if 10 * significand + d ≤ maxSignificand then
      let (value, n) := appendDigits (10 * significand + d) ds
      (value, n + 1)
    else (significand, 0)

/-- Multiply by a power of ten, in one step where the power is a floating-point number. Missing if
the product is infinite. `fuel` bounds the steps. -/
def scale : (fuel : Nat) → Float → Int → Option Float
  | 0, x, _ => some x
  | fuel + 1, x, exponent =>
    let power (n : Nat) : Float := Float.ofScientific 1 false n
    if exponent.natAbs ≤ 308 then
      if exponent < 0 then some (x / power exponent.natAbs)
      else
        let product := x * power exponent.natAbs
        if product.isInf then none else some product
    else if x == 0 then some x
    else if 0 < exponent then none
    else scale fuel (x / power 308) (exponent + 308)

/-- The floating-point number that the number is read as. Digits that do not fit the significand do
not count, and scaling rounds once more, so that it need not be the nearest one. Missing if the
number is too large. -/
def toFloat? (n : Number) : Option Float :=
  let (significand, taken) := appendDigits 0 n.whole
  let (significand, places) := appendDigits significand n.fraction
  let exponent : Int := (n.whole.length - taken : Nat) - places + n.exponent.getD 0
  -- after two steps down, what is left is zero
  (scale 4 significand.toUInt64.toFloat exponent).map fun x => if n.negative then -x else x

def isFinite (n : Number) : Bool := n.toFloat?.isSome

end Json.Number

end ConstrainedDecoding
