/-! Patterns as written. -/

namespace ConstrainedDecoding.Pattern

inductive Flag
  | caseInsensitive
  | multiLine
  | dotMatchesNewLine
  | swapGreed
  | unicode
  | crlf
  | ignoreWhitespace
deriving DecidableEq

/-- Flags to switch on or off, in written order. -/
abbrev FlagChanges := List (Flag × Bool)

/-- What the changes say about one flag. -/
def FlagChanges.find? (changes : FlagChanges) (flag : Flag) : Option Bool :=
  (List.find? (·.1 = flag) changes).map (·.2)

/-- A literal character; `isByte` marks an escape of two hexadecimal digits. -/
structure Literal where
  char : Char
  isByte : Bool := false

inductive PerlClass
  | digit
  | space
  | word

inductive AsciiClass
  | alnum
  | alpha
  | ascii
  | blank
  | cntrl
  | digit
  | graph
  | lower
  | print
  | punct
  | space
  | upper
  | word
  | xdigit

def AsciiClass.ofName? : String → Option AsciiClass
  | "alnum" => some alnum
  | "alpha" => some alpha
  | "ascii" => some ascii
  | "blank" => some blank
  | "cntrl" => some cntrl
  | "digit" => some digit
  | "graph" => some graph
  | "lower" => some lower
  | "print" => some print
  | "punct" => some punct
  | "space" => some space
  | "upper" => some upper
  | "word" => some word
  | "xdigit" => some xdigit
  | _ => none

/-- A question about a Unicode property. -/
inductive PropertyQuery
  | named (name : String)
  | valued (name value : String)

inductive Boundary
  | lineStart
  | lineEnd
  | textStart
  | textEnd
  | word
  | notWord
  | wordStart
  | wordEnd
  | wordStartHalf
  | wordEndHalf

inductive SetOperator
  | intersection
  | difference
  | symmetricDifference

inductive ClassSet
  | literal (l : Literal)
  | range (lo hi : Literal)
  | ascii (kind : AsciiClass) (negated : Bool)
  | property (query : PropertyQuery) (negated : Bool)
  | perl (kind : PerlClass) (negated : Bool)
  | bracketed (negated : Bool) (body : ClassSet)
  | union (items : List ClassSet)
  | binary (op : SetOperator) (lhs rhs : ClassSet)

inductive GroupKind
  | capture (index : Nat)
  | scoped (changes : FlagChanges)

inductive Ast
  | empty
  | flags (changes : FlagChanges)
  | literal (l : Literal)
  | dot
  | boundary (b : Boundary)
  | property (query : PropertyQuery) (negated : Bool)
  | perl (kind : PerlClass) (negated : Bool)
  | bracketed (negated : Bool) (body : ClassSet)
  | repetition (sub : Ast) (min : Nat) (max : Option Nat) (greedy : Bool)
  | group (kind : GroupKind) (sub : Ast)
  | alternation (branches : List Ast)
  | concat (items : List Ast)

/-- A union of class items; one item stands for itself. -/
def ClassSet.ofItems : List ClassSet → ClassSet
  | [item] => item
  | items => .union items

/-- A concatenation; no items are the empty pattern and one item stands for itself. -/
def Ast.ofItems : List Ast → Ast
  | [] => .empty
  | [item] => item
  | items => .concat items

mutual

/-- How deep brackets, unions and set operators are nested. -/
def ClassSet.depth : ClassSet → Nat
  | .bracketed _ body => body.depth + 1
  | .union [] => 0
  | .union (item :: items) => max item.depth (ClassSet.maxDepth items) + 1
  | .binary _ lhs rhs => max lhs.depth rhs.depth + 1
  | _ => 0

def ClassSet.maxDepth : List ClassSet → Nat
  | [] => 0
  | item :: items => max item.depth (ClassSet.maxDepth items)

end

mutual

/-- How deep groups, classes, repetitions, alternations and concatenations are nested. -/
def Ast.depth : Ast → Nat
  | .bracketed _ body => body.depth + 1
  | .repetition sub _ _ _ | .group _ sub => sub.depth + 1
  | .alternation items | .concat items => Ast.maxDepth items + 1
  | _ => 0

def Ast.maxDepth : List Ast → Nat
  | [] => 0
  | item :: items => max item.depth (Ast.maxDepth items)

end

end ConstrainedDecoding.Pattern
