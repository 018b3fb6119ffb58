/-! Ranges over a finite ordered alphabet, and character sets kept as ascending lists of them. -/

namespace ConstrainedDecoding

/-- The symbols from `lo` to `hi`, both included. -/
structure Interval (α : Type) where
  lo : α
  hi : α
deriving DecidableEq, Hashable

/-- A finite alphabet whose symbols are ordered by their codes. -/
class Alphabet (α : Type) where
  code : α → Nat
  next : α → α
  prev : α → α
  least : α
  greatest : α

/-- Scalar values step over the surrogate gap. -/
instance : Alphabet Char where
  code := Char.toNat
  next c := if c.toNat = 0xD7FF then '\uE000' else Char.ofNat (c.toNat + 1)
  prev c := if c.toNat = 0xE000 then '\uD7FF' else Char.ofNat (c.toNat - 1)
  least := '\x00'
  greatest := Char.ofNat 0x10FFFF

instance : Alphabet UInt8 where
  code := UInt8.toNat
  next b := b + 1
  prev b := b - 1
  least := 0
  greatest := 255

namespace Interval

variable {α : Type} [Alphabet α]

/-- The range between two symbols given in either order. -/
def between (a b : α) : Interval α :=
  if Alphabet.code a ≤ Alphabet.code b then ⟨a, b⟩ else ⟨b, a⟩

/-- A range of one symbol. -/
def single (a : α) : Interval α := ⟨a, a⟩

def contains (r : Interval α) (a : α) : Bool :=
  Alphabet.code r.lo ≤ Alphabet.code a && Alphabet.code a ≤ Alphabet.code r.hi

/-- Ranges are listed by their lower ends. -/
def startsBefore (r s : Interval α) : Bool :=
  Alphabet.code r.lo ≤ Alphabet.code s.lo

end Interval

/-- A set of symbols: its ranges ascend and no two of them touch. -/
abbrev IntervalSet (α : Type) := List (Interval α)

namespace IntervalSet

variable {α : Type} [Alphabet α]

open Alphabet (code)

def contains (s : IntervalSet α) (a : α) : Bool :=
  s.any (·.contains a)

/-- Merge `cur` with the ranges after it that overlap it or touch it. -/
def coalesceFrom (cur : Interval α) : List (Interval α) → IntervalSet α
  | [] => [cur]
  | r :: rs =>
    if code r.lo ≤ code cur.hi + 1 then
      coalesceFrom ⟨cur.lo, if code cur.hi ≤ code r.hi then r.hi else cur.hi⟩ rs
    else
      cur :: coalesceFrom r rs

/-- The set of the symbols that some range of the list holds. -/
def ofList (rs : List (Interval α)) : IntervalSet α :=
  match rs.mergeSort Interval.startsBefore with
  | [] => []
  | r :: rest => coalesceFrom r rest

def union (s t : IntervalSet α) : IntervalSet α :=
  ofList (s ++ t)

def inter : IntervalSet α → IntervalSet α → IntervalSet α
  | [], _ => []
  | _ :: _, [] => []
  | a :: as, b :: bs =>
    let lo := if code a.lo ≤ code b.lo then b.lo else a.lo
    let hi := if code a.hi ≤ code b.hi then a.hi else b.hi
    let rest := if code a.hi < code b.hi then inter as (b :: bs) else inter (a :: as) bs
    if code lo ≤ code hi then ⟨lo, hi⟩ :: rest else rest
termination_by s t => s.length + t.length

/-- The symbols of the first set that the second lacks. -/
def diff : IntervalSet α → IntervalSet α → IntervalSet α
  | [], _ => []
  | a :: as, [] => a :: as
  | a :: as, b :: bs =>
    if code b.hi < code a.lo then diff (a :: as) bs
    else if code a.hi < code b.lo then a :: diff as (b :: bs)
    else
      let rest :=
        if code b.hi < code a.hi then diff (⟨Alphabet.next b.hi, a.hi⟩ :: as) bs
        else diff as (b :: bs)
      if code a.lo < code b.lo then ⟨a.lo, Alphabet.prev b.lo⟩ :: rest else rest
termination_by s t => s.length + t.length

def symmDiff (s t : IntervalSet α) : IntervalSet α :=
  diff (union s t) (inter s t)

/-- The gaps of a set that lie above the range `r`. -/
def gapsAbove (r : Interval α) : IntervalSet α → IntervalSet α
  | [] =>
    if code r.hi < code (Alphabet.greatest : α) then
      [.between (Alphabet.next r.hi) Alphabet.greatest]
    else []
  | s :: rest => .between (Alphabet.next r.hi) (Alphabet.prev s.lo) :: gapsAbove s rest

/-- The gaps of a set. -/
def compl : IntervalSet α → IntervalSet α
  | [] => [⟨Alphabet.least, Alphabet.greatest⟩]
  | r :: rest =>
    if code (Alphabet.least : α) < code r.lo then
      .between Alphabet.least (Alphabet.prev r.lo) :: gapsAbove r rest
    else
      gapsAbove r rest

end IntervalSet

end ConstrainedDecoding
