import ConstrainedDecoding.Pattern.Ast
import ConstrainedDecoding.Pattern.SyntaxError
import ConstrainedDecoding.Text.Numeral
import ConstrainedDecoding.Unicode.WhiteSpace

/-!
Reading the pieces of a pattern that have no parts: literals, escapes, property names, numbers.
Every reader takes the text that remains and gives back what it leaves. With `verbose`, white space
and comments between characters have no meaning.
-/

namespace ConstrainedDecoding.Pattern

/-- A piece of a pattern that has no parts. -/
inductive Primitive
  | literal (l : Literal)
  | dot
  | boundary (b : Boundary)
  | property (query : PropertyQuery) (negated : Bool)
  | perl (kind : PerlClass) (negated : Bool)

def Primitive.toAst : Primitive → Ast
  | literal l => .literal l
  | dot => .dot
  | boundary b => .boundary b
  | property q n => .property q n
  | perl k n => .perl k n

/-- What reading gives: a value and the text left, or the fault. -/
abbrev Reading (α : Type) := Except SyntaxError (α × List Char)

/-- Drop white space and comments; a comment runs from `#` to the end of its line. -/
def dropBlank (inComment : Bool) : List Char → List Char
  | [] => []
  | c :: cs =>
    if inComment then dropBlank (c != '\n') cs
    else if Unicode.isWhiteSpace c then dropBlank false cs
    else if c = '#' then dropBlank true cs
    else c :: cs

def skipSpace (verbose : Bool) (s : List Char) : List Char :=
  if verbose then dropBlank false s else s

theorem length_dropBlank_le (inComment : Bool) (s : List Char) :
    (dropBlank inComment s).length ≤ s.length := by
  induction s generalizing inComment with
  | nil => simp [dropBlank]
  | cons c cs ih =>
    unfold dropBlank
    repeat' split
    all_goals first
      | exact Nat.le_succ_of_le (ih _)
      | exact Nat.le_refl _

theorem length_skipSpace_le (verbose : Bool) (s : List Char) :
    (skipSpace verbose s).length ≤ s.length := by
  unfold skipSpace
  split
  · exact length_dropBlank_le _ _
  · exact Nat.le_refl _

/-- A hexadecimal number with `count` more digits. -/
def readHexFixed (verbose : Bool) (value : Nat) : (count : Nat) → List Char → Reading Nat
  | 0, s => .ok (value, s)
  | _ + 1, [] => .error .escapeUnexpectedEnd
  | count + 1, c :: s =>
    match hexDigit? c with
    | none => .error .escapeHexInvalidDigit
    | some d => readHexFixed verbose (16 * value + d) count (skipSpace verbose s)

/-- A hexadecimal number up to a closing brace; `value` is missing before the first digit. -/
def readHexBraced (verbose : Bool) (value : Option Nat) : List Char → Reading (Option Nat)
  | [] => .error .escapeUnexpectedEnd
  | '}' :: s => .ok (value, skipSpace verbose s)
  | c :: s =>
    match hexDigit? c with
    | none => .error .escapeHexInvalidDigit
    | some d => readHexBraced verbose (some (16 * value.getD 0 + d)) (skipSpace verbose s)
termination_by s => s.length
decreasing_by
  have := length_skipSpace_le verbose s
  simp only [List.length_cons]
  omega

/-- The rest of a hexadecimal escape that is written with `digits` digits or in braces. -/
def readHex (verbose : Bool) (digits : Nat) (s : List Char) :
    Except SyntaxError (Literal × List Char) := do
  match skipSpace verbose s with
  | [] => .error .escapeUnexpectedEnd
  | '{' :: s =>
    match ← readHexBraced verbose none (skipSpace verbose s) with
    | (none, _) => .error .escapeHexEmpty
    | (some n, rest) =>
      match scalar? n with
      | none => .error .escapeHexInvalid
      | some c => .ok ({ char := c }, rest)
  | s =>
    let (n, rest) ← readHexFixed verbose 0 digits s
    match scalar? n with
    | none => .error .escapeHexInvalid
    | some c => .ok ({ char := c, isByte := digits == 2 }, rest)

/-- The characters up to a closing brace. -/
def readBraced (verbose : Bool) : List Char → Except SyntaxError (List Char × List Char)
  | [] => .error .escapeUnexpectedEnd
  | '}' :: s => .ok ([], s)
  | c :: s => do
    let (cs, rest) ← readBraced verbose (skipSpace verbose s)
    .ok (c :: cs, rest)
termination_by s => s.length
decreasing_by
  have := length_skipSpace_le verbose s
  simp only [List.length_cons]
  omega

/-- What stands before and after the first occurrence of a separator. -/
def splitAt? (sep : List Char) : List Char → Option (List Char × List Char)
  | [] => none
  | c :: cs =>
    if sep.isPrefixOf (c :: cs) then some ([], (c :: cs).drop sep.length)
    else (splitAt? sep cs).map fun (before, after) => (c :: before, after)

/-- The question that a text in the braces of a property escape asks, and whether it is `!=`. -/
def propertyQuery (text : List Char) : PropertyQuery × Bool :=
  match splitAt? ['!', '='] text with
  | some (n, v) => (.valued (.ofList n) (.ofList v), true)
  | none =>
    match (splitAt? [':'] text).or (splitAt? ['='] text) with
    | some (n, v) => (.valued (.ofList n) (.ofList v), false)
    | none => (.named (.ofList text), false)

/-- The rest of a property escape. -/
def readProperty (verbose negated : Bool) (s : List Char) :
    Except SyntaxError (Primitive × List Char) := do
  match skipSpace verbose s with
  | [] => .error .escapeUnexpectedEnd
  | '{' :: s =>
    let (text, rest) ← readBraced verbose (skipSpace verbose s)
    let (query, unequal) := propertyQuery text
    .ok (.property query (negated != unequal), rest)
  | '\\' :: _ => .error .unicodeClassInvalid
  | c :: s => .ok (.property (.named (.ofList [c])) negated, skipSpace verbose s)

def isMetaCharacter (c : Char) : Bool :=
  c ∈ ['\\', '.', '+', '*', '?', '(', ')', '|', '[', ']', '\x7b', '\x7d', '^', '$', '#', '&', '-',
    '~']

/-- Characters that stand for themselves after a backslash. -/
def isEscapeable (c : Char) : Bool :=
  isMetaCharacter c || (c.toNat < 128 && !c.isAlphanum && c ≠ '<' && c ≠ '>')

def isBoundaryNameChar (c : Char) : Bool := c.isAlpha || c = '-'

/-- The name in the braces of a special word boundary, and what follows it. -/
def spanBoundaryName (verbose : Bool) : List Char → List Char × List Char
  | [] => ([], [])
  | c :: s =>
    if isBoundaryNameChar c then
      let (name, rest) := spanBoundaryName verbose (skipSpace verbose s)
      (c :: name, rest)
    else ([], c :: s)
termination_by s => s.length
decreasing_by
  have := length_skipSpace_le verbose s
  simp only [List.length_cons]
  omega

/-- What a word boundary escape says, given the text after it; a brace may open a special name. -/
def readWordBoundary (verbose : Bool) : List Char → Reading Primitive
  | '{' :: s =>
    match skipSpace verbose s with
    | [] => .error .specialWordOrRepetitionUnexpectedEnd
    | c :: cs =>
      if isBoundaryNameChar c then
        match spanBoundaryName verbose (c :: cs) with
        | (name, '}' :: rest) =>
          match String.ofList name with
          | "start" => .ok (.boundary .wordStart, rest)
          | "end" => .ok (.boundary .wordEnd, rest)
          | "start-half" => .ok (.boundary .wordStartHalf, rest)
          | "end-half" => .ok (.boundary .wordEndHalf, rest)
          | _ => .error .specialWordBoundaryUnrecognized
        | _ => .error .specialWordBoundaryUnclosed
      else .ok (.boundary .word, '{' :: s)
  | s => .ok (.boundary .word, s)

/-- An escape, given the text after its backslash. -/
def readEscape (verbose : Bool) : List Char → Reading Primitive
  | [] => .error .escapeUnexpectedEnd
  | c :: s =>
    let char (c : Char) : Reading Primitive := .ok (.literal { char := c }, s)
    if c.isDigit then .error .unsupportedBackreference
    else if isEscapeable c then char c
    else
      match c with
      | 'x' => (readHex verbose 2 s).map fun (l, rest) => (.literal l, rest)
      | 'u' => (readHex verbose 4 s).map fun (l, rest) => (.literal l, rest)
      | 'U' => (readHex verbose 8 s).map fun (l, rest) => (.literal l, rest)
      | 'p' => readProperty verbose false s
      | 'P' => readProperty verbose true s
      | 'd' => .ok (.perl .digit false, s)
      | 'D' => .ok (.perl .digit true, s)
      | 's' => .ok (.perl .space false, s)
      | 'S' => .ok (.perl .space true, s)
      | 'w' => .ok (.perl .word false, s)
      | 'W' => .ok (.perl .word true, s)
      | 'a' => char '\x07'
      | 'f' => char '\x0C'
      | 't' => char '\t'
      | 'n' => char '\n'
      | 'r' => char '\r'
      | 'v' => char '\x0B'
      | 'A' => .ok (.boundary .textStart, s)
      | 'z' => .ok (.boundary .textEnd, s)
      | 'b' => readWordBoundary verbose s
      | 'B' => .ok (.boundary .notWord, s)
      | '<' => .ok (.boundary .wordStart, s)
      | '>' => .ok (.boundary .wordEnd, s)
      | _ => .error .escapeUnrecognized

/-- A piece that is neither a group, a class nor an operator. -/
def readPrimitive (verbose : Bool) : Char → List Char → Reading Primitive
  | '\\', s => readEscape verbose s
  | '.', s => .ok (.dot, s)
  | '^', s => .ok (.boundary .lineStart, s)
  | '$', s => .ok (.boundary .lineEnd, s)
  | c, s => .ok (.literal { char := c }, s)

/-- The digits of a decimal number, and what follows them. -/
def spanDigits (verbose : Bool) : List Char → List Nat × List Char
  | [] => ([], [])
  | c :: s =>
    if c.isDigit then
      let (ds, rest) := spanDigits verbose (skipSpace verbose s)
      ((c.toNat - 48) :: ds, rest)
    else ([], c :: s)
termination_by s => s.length
decreasing_by
  have := length_skipSpace_le verbose s
  simp only [List.length_cons]
  omega

/-- A repetition count below `2 ^ 32` with white space around it. -/
def readCount (verbose : Bool) (s : List Char) : Except SyntaxError Nat × List Char :=
  let (ds, rest) := spanDigits verbose (s.dropWhile Unicode.isWhiteSpace)
  let n := ds.foldl (10 * · + ·) 0
  let count :=
    if ds.isEmpty then .error .repetitionCountEmpty
    else if n < 4294967296 then .ok n
    else .error .decimalInvalid
  (count, rest.dropWhile Unicode.isWhiteSpace)

end ConstrainedDecoding.Pattern
