import ConstrainedDecoding.Pattern.CharacterClass
import ConstrainedDecoding.Pattern.Expr
import ConstrainedDecoding.Pattern.Reader

/-! From written patterns to expressions: flags take effect and classes become sets. -/

namespace ConstrainedDecoding.Pattern

namespace Flags

/-- A literal character; one with other cases becomes a class when case does not count. -/
def literal (f : Flags) (l : Literal) : Except SyntaxError Expr := do
  let c ← f.literalChar l
  if f.caseInsensitive && f.unicode then
    let set := Unicode.foldClosure [.single c]
    return if set = [.single c] then .literal (String.utf8EncodeChar c) else .ofScalars set
  else if f.caseInsensitive && c.isAlpha then
    return .ofBytes (f.foldBytes [.single c.toNat.toUInt8])
  else
    return .literal (String.utf8EncodeChar c)

/-- Any character, except line ends unless a flag includes them. -/
def dot (f : Flags) : Except SyntaxError Expr :=
  let top : Char := Alphabet.greatest
  if !f.unicode then .error .invalidUtf8
  else if f.dotMatchesNewLine then .ok (.scalars [⟨'\x00', top⟩])
  else if f.crlf then .ok (.scalars [⟨'\x00', '\x09'⟩, ⟨'\x0B', '\x0C'⟩, ⟨'\x0E', top⟩])
  else .ok (.scalars [⟨'\x00', '\x09'⟩, ⟨'\x0B', top⟩])

def assertion (f : Flags) : Boundary → Assertion
  | .lineStart =>
    if !f.multiLine then .start else if f.crlf then .lineStartCrlf else .lineStart
  | .lineEnd => if !f.multiLine then .stop else if f.crlf then .lineEndCrlf else .lineEnd
  | .textStart => .start
  | .textEnd => .stop
  | .word => if f.unicode then .wordUnicode else .wordAscii
  | .notWord => if f.unicode then .wordUnicodeNegate else .wordAsciiNegate
  | .wordStart => if f.unicode then .wordStartUnicode else .wordStartAscii
  | .wordEnd => if f.unicode then .wordEndUnicode else .wordEndAscii
  | .wordStartHalf => if f.unicode then .wordStartHalfUnicode else .wordStartHalfAscii
  | .wordEndHalf => if f.unicode then .wordEndHalfUnicode else .wordEndHalfAscii

mutual

/-- The expression of a tree, and the flags that hold after it. -/
def elaborate (f : Flags) : Ast → Except SyntaxError (Expr × Flags)
  | .empty => .ok (.empty, f)
  | .flags changes => .ok (.empty, f.apply changes)
  | .literal l => do return (← f.literal l, f)
  | .dot => do return (← f.dot, f)
  | .boundary b => .ok (.assertion (f.assertion b), f)
  | .property query negated => do return (.ofScalars (← f.property query negated), f)
  | .perl kind negated =>
    if f.unicode then .ok (.ofScalars (negateIf negated kind.scalars), f)
    else do return (.ofBytes (← perlBytes kind negated), f)
  | .bracketed negated body =>
    if f.unicode then do
      return (.ofScalars (negateIf negated (f.foldScalars (← f.scalars body))), f)
    else do
      return (.ofBytes (← requireAscii (negateIf negated (f.foldBytes (← f.bytes body)))), f)
  | .repetition sub min max greedy => do
    let (e, f) ← f.elaborate sub
    return (e.mkRepetition min max (greedy != f.swapGreed), f)
  | .group (.capture index) sub => do
    let (e, _) ← f.elaborate sub
    return (.capture index e, f)
  | .group (.scoped changes) sub => do
    let (e, _) ← (f.apply changes).elaborate sub
    return (e, f)
  | .alternation branches => do
    let (es, f) ← f.elaborateAll branches
    return (.mkAlternation es, f)
  | .concat items => do
    let (es, f) ← f.elaborateAll items
    return (.mkConcat es, f)

def elaborateAll (f : Flags) : List Ast → Except SyntaxError (List Expr × Flags)
  | [] => .ok ([], f)
  | item :: items => do
    let (e, f) ← f.elaborate item
    let (es, f) ← f.elaborateAll items
    return (e :: es, f)

end

end Flags

/-- The expression that a pattern stands for. -/
def Expr.ofString (text : String) : Except SyntaxError Expr := do
  let ast ← Ast.ofString text
  let (e, _) ← ({} : Flags).elaborate ast
  return e

end ConstrainedDecoding.Pattern
