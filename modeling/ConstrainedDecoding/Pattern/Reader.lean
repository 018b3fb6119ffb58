import ConstrainedDecoding.Pattern.ClassReader
import ConstrainedDecoding.Unicode.Current

/-! Reading a whole pattern. -/

namespace ConstrainedDecoding.Pattern

/-- How deep a pattern may be nested. -/
def nestLimit : Nat := 250

/-- What has been read of a group: its finished branches and the items of the last one, both newest
first. -/
structure Level where
  branches : List Ast := []
  items : List Ast := []

namespace Level

def push (l : Level) (item : Ast) : Level :=
  { l with items := item :: l.items }

def branch (l : Level) : Level :=
  { branches := Ast.ofItems l.items.reverse :: l.branches }

def close (l : Level) : Ast :=
  match l.branches with
  | [] => Ast.ofItems l.items.reverse
  | branches => .alternation (Ast.ofItems l.items.reverse :: branches).reverse

/-- Take away the item that a repetition operator applies to. -/
def pop (l : Level) : Except SyntaxError (Ast × Level) :=
  match l.items with
  | [] | .empty :: _ | .flags _ :: _ => .error .repetitionMissing
  | item :: items => .ok (item, { l with items })

end Level

/-- A group that is still open: what stands before it, and the white space mode to go back to. -/
structure OpenGroup where
  before : Level
  kind : GroupKind
  verbose : Bool

/-- The state between two items of a pattern. -/
structure Progress where
  verbose : Bool := false
  level : Level := {}
  groups : List OpenGroup := []
  captures : Nat := 0
  names : List (List Char) := []

def flag? : Char → Option Flag
  | 'i' => some .caseInsensitive
  | 'm' => some .multiLine
  | 's' => some .dotMatchesNewLine
  | 'U' => some .swapGreed
  | 'u' => some .unicode
  | 'R' => some .crlf
  | 'x' => some .ignoreWhitespace
  | _ => none

/-- Flags up to the closing parenthesis or the colon, which is left in place. `negated` says whether
a minus sign has been read and `dangling` whether it came last. -/
def readFlags (changes : FlagChanges) (negated dangling : Bool) :
    List Char → Except SyntaxError (FlagChanges × List Char)
  | [] => .error .flagUnexpectedEnd
  | c :: s =>
    if c = ':' || c = ')' then
      if dangling then .error .flagDanglingNegation else .ok (changes.reverse, c :: s)
    else if c = '-' then
      if negated then .error .flagRepeatedNegation else readFlags changes true true s
    else
      match flag? c with
      | none => .error .flagUnrecognized
      | some flag =>
        if (changes.find? flag).isSome then .error .flagDuplicate
        else readFlags ((flag, !negated) :: changes) negated false s

def isNameChar (isFirst : Bool) (c : Char) : Bool :=
  c = '_' || (!isFirst && (c = '.' || c = '[' || c = ']' || Unicode.isNumeric c)) ||
    Unicode.isAlphabetic c

/-- A group's name up to its closing angle bracket. -/
def readName (isFirst : Bool) : List Char → Except SyntaxError (List Char × List Char)
  | [] => .error .groupNameUnexpectedEnd
  | '>' :: s => .ok ([], s)
  | c :: s =>
    if isNameChar isFirst c then do
      let (cs, rest) ← readName false s
      .ok (c :: cs, rest)
    else .error .groupNameInvalid

namespace Progress

def push (p : Progress) (item : Ast) : Progress :=
  { p with level := p.level.push item }

def openGroup (p : Progress) (kind : GroupKind) (verbose : Bool) : Progress :=
  { p with level := {}, groups := ⟨p.level, kind, p.verbose⟩ :: p.groups, verbose }

def openCapture (p : Progress) : Progress :=
  let p := { p with captures := p.captures + 1 }
  p.openGroup (.capture p.captures) p.verbose

def closeGroup (p : Progress) : Except SyntaxError Progress :=
  match p.groups with
  | [] => .error .groupUnopened
  | g :: groups =>
    .ok { p with
      level := g.before.push (.group g.kind p.level.close), groups, verbose := g.verbose }

/-- The beginning of a group, given the text after its parenthesis; or flags that apply from here
on. -/
def readGroup (p : Progress) (s : List Char) : Except SyntaxError (Progress × List Char) := do
  match skipSpace p.verbose s with
  | '?' :: '=' :: _ | '?' :: '!' :: _ | '?' :: '<' :: '=' :: _ | '?' :: '<' :: '!' :: _ =>
    .error .unsupportedLookAround
  | '?' :: 'P' :: '<' :: s | '?' :: '<' :: s =>
    let (name, s) ← readName true s
    if name.isEmpty then .error .groupNameEmpty
    else if name ∈ p.names then .error .groupNameDuplicate
    else .ok ({ p with names := name :: p.names }.openCapture, s)
  | ['?'] => .error .groupUnclosed
  | '?' :: s =>
    let (changes, s) ← readFlags [] false false s
    let verbose := (changes.find? .ignoreWhitespace).getD p.verbose
    match s with
    | ':' :: s => .ok (p.openGroup (.scoped changes) verbose, s)
    | s =>
      if changes.isEmpty then .error .repetitionMissing
      else .ok ({ p with verbose }.push (.flags changes), s.tail)
  | s => .ok (p.openCapture, s)

/-- Repeat the last item; a question mark after the operator makes it lazy. -/
def repeatLast (p : Progress) (min : Nat) (max : Option Nat) (s : List Char) :
    Except SyntaxError (Progress × List Char) := do
  let (sub, level) ← p.level.pop
  let (greedy, s) :=
    match s with
    | '?' :: s => (false, s)
    | s => (true, s)
  .ok ({ p with level := level.push (.repetition sub min max greedy) }, s)

/-- A repetition with counts, given the text after its brace. -/
def readCounted (p : Progress) (s : List Char) : Except SyntaxError (Progress × List Char) := do
  let _ ← p.level.pop
  match skipSpace p.verbose s with
  | [] => .error .repetitionCountUnclosed
  | s =>
    let (first, s) := readCount p.verbose s
    let ((min, max), s) ← bounds first s
    match s with
    | '}' :: s =>
      let s := skipSpace p.verbose s
      if max.any (· < min) then .error .repetitionCountInvalid
      else p.repeatLast min max s
    | _ => .error .repetitionCountUnclosed
where
  /-- The two counts, given the first and the text after it. -/
  bounds (first : Except SyntaxError Nat) :
      List Char → Except SyntaxError ((Nat × Option Nat) × List Char)
    | [] => .error .repetitionCountUnclosed
    | ',' :: s =>
      match skipSpace p.verbose s with
      | [] => .error .repetitionCountUnclosed
      | '}' :: s => do return ((← first, none), '}' :: s)
      | s => do
        let min ← first
        let (second, s) := readCount p.verbose s
        return ((min, some (← second)), s)
    | s => do
      let count ← first
      return ((count, some count), s)

/-- One item, given its first character and the text after that. -/
def step (p : Progress) : Char → List Char → Except SyntaxError (Progress × List Char)
  | '(', s => p.readGroup s
  | ')', s => do return (← p.closeGroup, s)
  | '|', s => .ok ({ p with level := p.level.branch }, s)
  | '[', s => do
    let (c, s) ← readClass p.verbose s
    return (p.push (.bracketed c.negated c.body), s)
  | '?', s => p.repeatLast 0 (some 1) s
  | '*', s => p.repeatLast 0 none s
  | '+', s => p.repeatLast 1 none s
  | '{', s => p.readCounted s
  | c, s => do
    let (piece, s) ← readPrimitive p.verbose c s
    return (p.push piece.toAst, s)

/-- Read items until the text ends; `fuel` bounds their number. -/
def run (p : Progress) (fuel : Nat) (s : List Char) : Except SyntaxError Progress :=
  match fuel, skipSpace p.verbose s with
  | 0, _ | _, [] => .ok p
  | fuel + 1, c :: s => do
    let (p, s) ← p.step c s
    p.run fuel s

end Progress

/-- The tree of a pattern. -/
def Ast.ofString (text : String) : Except SyntaxError Ast := do
  let p ← Progress.run {} (text.length + 1) text.toList
  if !p.groups.isEmpty then .error .groupUnclosed
  else
    let ast := p.level.close
    if nestLimit < ast.depth then .error (.nestLimitExceeded nestLimit) else .ok ast

end ConstrainedDecoding.Pattern
