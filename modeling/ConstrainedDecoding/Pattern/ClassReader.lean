import ConstrainedDecoding.Pattern.Escape

/-! Reading bracketed character classes. -/

namespace ConstrainedDecoding.Pattern

/-- A bracketed class that is still open: the items since the last set operator, newest first, and
what stands to the left of that operator. -/
structure OpenClass where
  negated : Bool
  items : List ClassSet
  pending : Option (SetOperator × ClassSet) := none

namespace OpenClass

def push (c : OpenClass) (item : ClassSet) : OpenClass :=
  { c with items := item :: c.items }

/-- All that has been read; operators bind to the left with one strength. -/
def body (c : OpenClass) : ClassSet :=
  let rhs := ClassSet.ofItems c.items.reverse
  match c.pending with
  | none => rhs
  | some (op, lhs) => .binary op lhs rhs

def operator (c : OpenClass) (op : SetOperator) : OpenClass :=
  { c with items := [], pending := some (op, c.body) }

def close (c : OpenClass) : ClassSet :=
  .bracketed c.negated c.body

end OpenClass

/-- Hyphens at the very beginning of a class are literal. -/
def readHyphens (verbose : Bool) (items : List ClassSet) :
    List Char → Except SyntaxError (List ClassSet × List Char)
  | [] => .error .classUnclosed
  | '-' :: s => readHyphens verbose (.literal { char := '-' } :: items) (skipSpace verbose s)
  | s => .ok (items, s)
termination_by s => s.length
decreasing_by
  have := length_skipSpace_le verbose s
  simp only [List.length_cons]
  omega

/-- The beginning of a class, given the text after its bracket. A closing bracket that comes first
is literal. -/
def readClassStart (verbose : Bool) (s : List Char) :
    Except SyntaxError (OpenClass × List Char) := do
  let (negated, s) :=
    match skipSpace verbose s with
    | '^' :: s => (true, skipSpace verbose s)
    | s => (false, s)
  match ← readHyphens verbose [] s with
  | ([], ']' :: s) =>
    match skipSpace verbose s with
    | [] => .error .classUnclosed
    | s => .ok ({ negated, items := [.literal { char := ']' }] }, s)
  | (items, s) => .ok ({ negated, items }, s)

/-- A class such as `[:alpha:]`, given the text after its bracket. -/
def readAsciiClass? : List Char → Option (ClassSet × List Char)
  | ':' :: s =>
    let (negated, s) :=
      match s with
      | '^' :: s => (true, s)
      | s => (false, s)
    match s.span (· ≠ ':') with
    | (name, ':' :: ']' :: rest) =>
      (AsciiClass.ofName? (.ofList name)).map fun kind => (.ascii kind negated, rest)
    | _ => none
  | _ => none

/-- The first character with a meaning; a comment's text counts as such. -/
def peekPast (verbose : Bool) (s : List Char) : Option Char :=
  if verbose then look false s else s.head?
where
  look (inComment : Bool) : List Char → Option Char
    | [] => none
    | c :: cs =>
      if Unicode.isWhiteSpace c then look inComment cs
      else if !inComment && c = '#' then look true cs
      else some c

/-- One end of a range, or an item by itself. -/
def readClassPrimitive (verbose : Bool) : Char → List Char → Reading Primitive
  | '\\', s => readEscape verbose s
  | c, s => .ok (.literal { char := c }, s)

def Primitive.toItem : Primitive → Except SyntaxError ClassSet
  | literal l => .ok (.literal l)
  | property q n => .ok (.property q n)
  | perl k n => .ok (.perl k n)
  | dot | boundary _ => .error .classEscapeInvalid

def Primitive.toRangeEnd : Primitive → Except SyntaxError Literal
  | literal l => .ok l
  | _ => .error .classRangeLiteral

/-- An item or a range. -/
def readClassItem (verbose : Bool) (c : Char) (s : List Char) :
    Except SyntaxError (ClassSet × List Char) := do
  let (first, s) ← readClassPrimitive verbose c s
  match skipSpace verbose s with
  | [] => .error .classUnclosed
  | '-' :: s =>
    if peekPast verbose s = some ']' || peekPast verbose s = some '-' then
      return (← first.toItem, '-' :: s)
    match skipSpace verbose s with
    | [] => .error .classUnclosed
    | c :: s =>
      let (second, s) ← readClassPrimitive verbose c s
      let lo ← first.toRangeEnd
      let hi ← second.toRangeEnd
      if hi.char < lo.char then .error .classRangeInvalid
      else return (.range lo hi, s)
  | s => return (← first.toItem, s)

/-- The rest of a class. `outer` holds the classes around it, innermost first, and `fuel` bounds the
number of items left. -/
def readClassRest (verbose : Bool) (fuel : Nat) (current : OpenClass) (outer : List OpenClass)
    (s : List Char) : Except SyntaxError (OpenClass × List Char) :=
  match fuel, skipSpace verbose s with
  | 0, _ | _, [] => .error .classUnclosed
  | fuel + 1, '[' :: s =>
    match readAsciiClass? s with
    | some (item, s) => readClassRest verbose fuel (current.push item) outer s
    | none => do
      let (inner, s) ← readClassStart verbose s
      readClassRest verbose fuel inner (current :: outer) s
  | fuel + 1, ']' :: s =>
    match outer with
    | [] => .ok (current, s)
    | parent :: outer => readClassRest verbose fuel (parent.push current.close) outer s
  | fuel + 1, '&' :: '&' :: s => readClassRest verbose fuel (current.operator .intersection) outer s
  | fuel + 1, '-' :: '-' :: s => readClassRest verbose fuel (current.operator .difference) outer s
  | fuel + 1, '~' :: '~' :: s =>
    readClassRest verbose fuel (current.operator .symmetricDifference) outer s
  | fuel + 1, c :: s => do
    let (item, s) ← readClassItem verbose c s
    readClassRest verbose fuel (current.push item) outer s

/-- All of a class up to its closing bracket, given the text after the opening one. -/
def readClass (verbose : Bool) (s : List Char) : Except SyntaxError (OpenClass × List Char) := do
  let (current, rest) ← readClassStart verbose s
  readClassRest verbose (rest.length + 1) current [] rest

end ConstrainedDecoding.Pattern
