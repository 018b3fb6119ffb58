import ConstrainedDecoding.Unicode.CaseFold
import ConstrainedDecoding.Unicode.Derived

/-! Expressions that are looked for in texts, where the first way to match counts. -/

namespace ConstrainedDecoding.Tokenizer

inductive Anchor
  | textStart
  | textStop
  /-- The end of the text, or the newline that ends it. -/
  | lastStop
  | lineStart
  | lineStop
  /-- Where the search began. -/
  | searchStart
  /-- Between a character of a set and one that is not in it, or not there. -/
  | boundary (inside : IntervalSet Char) (negated : Bool)

inductive Expression
  /-- One character. -/
  | one (set : IntervalSet Char)
  | anchor (a : Anchor)
  | sequence (parts : List Expression)
  /-- The first part that matches counts. -/
  | choice (parts : List Expression)
  | repeated (body : Expression) (least : Nat) (most : Option Nat) (isLazy : Bool)
  /-- What has matched is not tried in another way. -/
  | atomic (body : Expression)
  /-- What follows or comes before. -/
  | look (behind negated : Bool) (body : Expression)
  | group (number : Nat) (body : Expression)
  /-- The text of a group; of several the last one that has matched. -/
  | reference (numbers : List Nat) (ignoreCase : Bool)
  /-- The match begins here. -/
  | keep

namespace Expression

/-- Matches one text. -/
def literal (text : List Char) : Expression := sequence (text.map fun c => one [.single c])

/-- A position in a text: the characters before it, nearest first, and those after it. -/
structure Place where
  before : List Char
  after : List Char
deriving DecidableEq

namespace Place

def ofText (text : List Char) : Place := ⟨[], text⟩

def index (p : Place) : Nat := p.before.length

/-- Go on by one character. -/
def next? (p : Place) : Option Place :=
  match p.after with
  | [] => none
  | c :: cs => some ⟨c :: p.before, cs⟩

/-- The places before the first characters of a text, the last one first. -/
def back (before after : List Char) : List Place :=
  ⟨before, after⟩ ::
    match before with
    | [] => []
    | c :: cs => back cs (c :: after)

/-- Whether an anchor holds at a place. `origin` is where the search began. -/
def holds (p : Place) (origin : Nat) : Anchor → Bool
  | .textStart => p.before.isEmpty
  | .textStop => p.after.isEmpty
  | .lastStop => p.after.isEmpty || p.after = ['\n']
  | .lineStart => p.before.isEmpty || (p.before.head? = some '\n' && !p.after.isEmpty)
  | .lineStop => p.after.isEmpty || p.after.head? = some '\n'
  | .searchStart => p.index = origin
  | .boundary inside negated =>
    (p.before.head?.any inside.contains != p.after.head?.any inside.contains) != negated

end Place

/-- A match that is under way. -/
structure Progress where
  place : Place
  /-- Where the match begins. -/
  start : Nat
  /-- The texts of the groups that have matched, the last one first. -/
  groups : List (Nat × List Char)

/-- What is left to be done. -/
inductive Task
  | match (e : Expression)
  /-- Go on with a repetition, an iteration of which began at `since`. -/
  | iterate (body : Expression) (least : Nat) (most : Option Nat) (isLazy : Bool)
      (since : Option Nat)
  | close (group : Nat) (since : Nat)
  /-- Succeed only at one position. -/
  | arrive (index : Nat)

def sameText (ignoreCase : Bool) (a b : Char) : Bool :=
  a = b || (ignoreCase && (Unicode.foldClosure [.single a]).contains b)

/-- Take a text off the front of another one. -/
def dropText? (ignoreCase : Bool) : (text : List Char) → Place → Option Place
  | [], p => some p
  | c :: cs, p =>
    match p.after with
    | [] => none
    | d :: ds =>
      if sameText ignoreCase c d then dropText? ignoreCase cs ⟨d :: p.before, ds⟩ else none

/-- Do all tasks, going back to the last choice where one fails. `fuel` bounds their number. -/
def run (origin : Nat) : (fuel : Nat) → List Task → Progress → Option Progress
  | 0, _, _ => none
  | _, [], s => some s
  | fuel + 1, .close n since :: tasks, s =>
    let text := (s.place.before.take (s.place.index - since)).reverse
    run origin fuel tasks { s with groups := (n, text) :: s.groups }
  | fuel + 1, .arrive i :: tasks, s =>
    if s.place.index = i then run origin fuel tasks s else none
  | fuel + 1, .iterate body least most isLazy since :: tasks, s =>
    -- an iteration without a character is the last one
    if least = 0 ∧ since = some s.place.index then run origin fuel tasks s
    else
      let again (_ : Unit) : Option Progress :=
        if most = some 0 then none
        else
          let rest := .iterate body (least - 1) (most.map (· - 1)) isLazy (some s.place.index)
          run origin fuel (.match body :: rest :: tasks) s
      if 0 < least then again ()
      else if isLazy then (run origin fuel tasks s).orElse again
      else (again ()).orElse fun _ => run origin fuel tasks s
  | fuel + 1, .match e :: tasks, s =>
    match e with
    | one set =>
      if s.place.after.head?.any set.contains then
        (s.place.next?).bind fun place => run origin fuel tasks { s with place }
      else none
    | anchor a => if s.place.holds origin a then run origin fuel tasks s else none
    | sequence parts => run origin fuel (parts.map Task.match ++ tasks) s
    | choice parts => parts.findSome? fun part => run origin fuel (.match part :: tasks) s
    | repeated body least most isLazy =>
      run origin fuel (.iterate body least most isLazy none :: tasks) s
    | atomic body => (run origin fuel [.match body] s).bind (run origin fuel tasks)
    | look behind negated body =>
      let places := if behind then Place.back s.place.before s.place.after else [s.place]
      let ending := if behind then [Task.arrive s.place.index] else []
      let found := places.findSome? fun place =>
        run origin fuel (.match body :: ending) { s with place }
      match found, negated with
      | some r, false => run origin fuel tasks { r with place := s.place, start := s.start }
      | none, true => run origin fuel tasks s
      | _, _ => none
    | group n body => run origin fuel (.match body :: .close n s.place.index :: tasks) s
    | reference numbers ignoreCase =>
      match s.groups.find? (numbers.contains ·.1) with
      | none => none
      | some (_, text) =>
        (dropText? ignoreCase text s.place).bind fun place =>
          run origin fuel tasks { s with place }
    | keep => run origin fuel tasks { s with start := s.place.index }

mutual

/-- A bound for the number of tasks between two characters. -/
def weight : Expression → Nat
  | sequence parts | choice parts => weights parts + 1
  | repeated body least most _ => (max least (most.getD 0) + 2) * (weight body + 2)
  | atomic body | look _ _ body | group _ body => weight body + 3
  | _ => 1

def weights : List Expression → Nat
  | [] => 0
  | e :: es => weight e + weights es

end

/-- A match that begins to be looked for at a place, with where it ends. `fuel` bounds the tasks. -/
def matchAt? (e : Expression) (fuel origin : Nat) (p : Place) : Option (Nat × Place) :=
  (run origin fuel [.match e] { place := p, start := p.index, groups := [] }).map fun r =>
    (r.start, r.place)

/-- The first match at a place or after it. -/
def search (e : Expression) (fuel origin : Nat) (before : List Char) :
    (after : List Char) → Option (Nat × Place)
  | [] => e.matchAt? fuel origin ⟨before, []⟩
  | c :: cs =>
    (e.matchAt? fuel origin ⟨before, c :: cs⟩).orElse fun _ =>
      search e fuel origin (c :: before) cs

/-- The matches from a place on. An empty match right after the last one, which ended at `last`,
does not count. `steps` bounds how often the search goes on. -/
def matchesFrom (e : Expression) (fuel : Nat) :
    (steps : Nat) → (last : Option Nat) → Place → List (Nat × Nat)
  | 0, _, _ => []
  | steps + 1, last, p =>
    match search e fuel p.index p.before p.after with
    | none => []
    | some (start, stop) =>
      if stop.index = start ∧ last = some start then
        match p.next? with
        | none => []
        | some p => matchesFrom e fuel steps last p
      else (start, stop.index) :: matchesFrom e fuel steps (some stop.index) stop

/-- The spans of all matches in a text. -/
def spans (e : Expression) (text : List Char) : List (Nat × Nat) :=
  let fuel := 2 * (text.length + 2) * (weight e + 2)
  matchesFrom e fuel (2 * text.length + 2) none (.ofText text)

end Expression

end ConstrainedDecoding.Tokenizer
