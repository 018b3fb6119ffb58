import ConstrainedDecoding.Pattern.Assertion
import ConstrainedDecoding.Utf8.Sequence

/-!
Pattern expressions over bytes and scalar values, and the smart constructors that keep them simple:
adjacent literals are joined, nested concatenations and alternations are flattened, alternatives
that are single characters or classes become one class, and a common beginning is factored out.
-/

namespace ConstrainedDecoding.Pattern

inductive Expr
  | empty
  | literal (bytes : List UInt8)
  | scalars (set : IntervalSet Char)
  | bytes (set : IntervalSet UInt8)
  | assertion (a : Assertion)
  | repetition (sub : Expr) (min : Nat) (max : Option Nat) (greedy : Bool)
  | capture (index : Nat) (sub : Expr)
  | concat (subs : List Expr)
  | alternation (subs : List Expr)
deriving BEq, Inhabited

namespace Expr

/-- The expression that matches nothing. -/
def fail : Expr := .bytes []

def ofScalars : IntervalSet Char → Expr
  | [] => fail
  | [r] => if r.lo = r.hi then .literal (String.utf8EncodeChar r.lo) else .scalars [r]
  | set => .scalars set

def ofBytes : IntervalSet UInt8 → Expr
  | [] => fail
  | [r] => if r.lo = r.hi then .literal [r.lo] else .bytes [r]
  | set => .bytes set

mutual

/-- Whether no byte is ever consumed. -/
def isZeroWidth : Expr → Bool
  | empty | assertion _ => true
  | literal _ | scalars _ | bytes _ => false
  | repetition sub _ _ _ | capture _ sub => isZeroWidth sub
  | concat subs | alternation subs => areZeroWidth subs

def areZeroWidth : List Expr → Bool
  | [] => true
  | e :: es => isZeroWidth e && areZeroWidth es

end

/-- Repeating a zero-width expression is the same as trying it at most once. -/
def mkRepetition (sub : Expr) (min : Nat) (max : Option Nat) (greedy : Bool) : Expr :=
  let (min, max) :=
    if sub.isZeroWidth then (Nat.min min 1, some ((max.map (Nat.min · 1)).getD 1)) else (min, max)
  if max = some 0 then .empty
  else if min = 1 ∧ max = some 1 then sub
  else .repetition sub min max greedy

/-- Join neighbouring literals and drop empty expressions. -/
def joinLiterals : List Expr → List Expr
  | [] => []
  | .empty :: es => joinLiterals es
  | .literal bs :: es =>
    match joinLiterals es with
    | .literal cs :: rest => .literal (bs ++ cs) :: rest
    | rest => .literal bs :: rest
  | e :: es => e :: joinLiterals es

def concatParts : Expr → List Expr
  | .concat es => es
  | e => [e]

def mkConcat (es : List Expr) : Expr :=
  match joinLiterals (es.flatMap concatParts) with
  | [] => .empty
  | [e] => e
  | es => .concat es

def alternatives : Expr → List Expr
  | .alternation es => es
  | e => [e]

/-- The character whose encoding is a given byte string. -/
def soleChar? (bytes : List UInt8) : Option Char :=
  match (String.fromUTF8? ⟨bytes.toArray⟩).map String.toList with
  | some [c] => some c
  | _ => none

def singleChar? : Expr → Option (Interval Char)
  | .literal bs => (soleChar? bs).map .single
  | _ => none

def singleByte? : Expr → Option (Interval UInt8)
  | .literal [b] => some (.single b)
  | _ => none

/-- A byte class as a class of scalar values, when all its bytes are ASCII. -/
def asciiToScalars? (set : IntervalSet UInt8) : Option (IntervalSet Char) :=
  set.mapM fun r =>
    if r.hi ≤ 0x7F then some ⟨Char.ofNat r.lo.toNat, Char.ofNat r.hi.toNat⟩ else none

/-- A class of scalar values as a byte class, when all of them are ASCII. -/
def asciiToBytes? (set : IntervalSet Char) : Option (IntervalSet UInt8) :=
  set.mapM fun r =>
    if r.hi.toNat ≤ 0x7F then some ⟨r.lo.toNat.toUInt8, r.hi.toNat.toUInt8⟩ else none

def scalarClass? : Expr → Option (IntervalSet Char)
  | .scalars set => some set
  | .bytes set => asciiToScalars? set
  | _ => none

def byteClass? : Expr → Option (IntervalSet UInt8)
  | .scalars set => asciiToBytes? set
  | .bytes set => some set
  | _ => none

/-- One class that matches what a list of alternatives matches, if they are all alike. -/
def mergeAlternatives? (es : List Expr) : Option Expr :=
  ((es.mapM singleChar?).map fun rs => ofScalars (.ofList rs)).or <|
  ((es.mapM singleByte?).map fun rs => ofBytes (.ofList rs)).or <|
  ((es.mapM scalarClass?).map fun sets => ofScalars (.ofList sets.flatten)).or <|
  (es.mapM byteClass?).map fun sets => ofBytes (.ofList sets.flatten)

/-- How many expressions two lists have in common at their beginnings. -/
def commonLength : List Expr → List Expr → Nat
  | x :: xs, y :: ys => if x == y then commonLength xs ys + 1 else 0
  | _, _ => 0

def concatParts? : Expr → Option (List Expr)
  | .concat es => some es
  | _ => none

/-- The parts of concatenations `first :: rest` that all of them begin with. -/
def commonParts (first : List Expr) : List (List Expr) → List Expr
  | [] => first
  | es :: rest => commonParts (first.take (commonLength first es)) rest

/-- An alternation of alternatives that have no common beginning. -/
def alternationOf (es : List Expr) : Expr :=
  match es.flatMap alternatives with
  | [] => fail
  | [e] => e
  | es => (mergeAlternatives? es).getD (.alternation es)

/-- Take the common beginning out of alternatives that are all concatenations. -/
def factor? (es : List Expr) : Option Expr :=
  match es.mapM concatParts? with
  | some (first :: rest) =>
    match commonParts first rest with
    | [] => none
    | common =>
      let tails := (first :: rest).map fun parts => mkConcat (parts.drop common.length)
      some (mkConcat (common ++ [alternationOf tails]))
  | _ => none

def mkAlternation (es : List Expr) : Expr :=
  match es.flatMap alternatives with
  | [] => fail
  | [e] => e
  | es => (mergeAlternatives? es).getD ((factor? es).getD (.alternation es))

end Expr

end ConstrainedDecoding.Pattern
