import ConstrainedDecoding.Pattern.Ast
import ConstrainedDecoding.Pattern.SyntaxError
import ConstrainedDecoding.Unicode.CaseFold
import ConstrainedDecoding.Unicode.PropertyName

/-!
The characters that a class stands for. In Unicode mode a class is a set of scalar values; otherwise
it is a set of bytes, which have to be ASCII so that only valid UTF-8 is matched.
-/

namespace ConstrainedDecoding.Pattern

/-- The flags that are in force at some place of a pattern. -/
structure Flags where
  caseInsensitive : Bool := false
  multiLine : Bool := false
  dotMatchesNewLine : Bool := false
  swapGreed : Bool := false
  unicode : Bool := true
  crlf : Bool := false

def Flags.set (f : Flags) (on : Bool) : Flag → Flags
  | .caseInsensitive => { f with caseInsensitive := on }
  | .multiLine => { f with multiLine := on }
  | .dotMatchesNewLine => { f with dotMatchesNewLine := on }
  | .swapGreed => { f with swapGreed := on }
  | .unicode => { f with unicode := on }
  | .crlf => { f with crlf := on }
  | .ignoreWhitespace => f

def Flags.apply (f : Flags) (changes : FlagChanges) : Flags :=
  changes.foldl (fun f (flag, on) => f.set on flag) f

def AsciiClass.codes : AsciiClass → List (Nat × Nat)
  | alnum => [(0x30, 0x39), (0x41, 0x5A), (0x61, 0x7A)]
  | alpha => [(0x41, 0x5A), (0x61, 0x7A)]
  | ascii => [(0x00, 0x7F)]
  | blank => [(0x09, 0x09), (0x20, 0x20)]
  | cntrl => [(0x00, 0x1F), (0x7F, 0x7F)]
  | digit => [(0x30, 0x39)]
  | graph => [(0x21, 0x7E)]
  | lower => [(0x61, 0x7A)]
  | print => [(0x20, 0x7E)]
  | punct => [(0x21, 0x2F), (0x3A, 0x40), (0x5B, 0x60), (0x7B, 0x7E)]
  | space => [(0x09, 0x0D), (0x20, 0x20)]
  | upper => [(0x41, 0x5A)]
  | word => [(0x30, 0x39), (0x41, 0x5A), (0x5F, 0x5F), (0x61, 0x7A)]
  | xdigit => [(0x30, 0x39), (0x41, 0x46), (0x61, 0x66)]

def AsciiClass.scalars (kind : AsciiClass) : IntervalSet Char :=
  kind.codes.map fun (lo, hi) => ⟨Char.ofNat lo, Char.ofNat hi⟩

def AsciiClass.bytes (kind : AsciiClass) : IntervalSet UInt8 :=
  kind.codes.map fun (lo, hi) => ⟨lo.toUInt8, hi.toUInt8⟩

def PerlClass.scalars : PerlClass → IntervalSet Char
  | digit => Unicode.decimalDigits
  | space => Unicode.whiteSpace
  | word => Unicode.wordCharacters.get

def PerlClass.bytes : PerlClass → IntervalSet UInt8
  | digit => AsciiClass.digit.bytes
  | space => AsciiClass.space.bytes
  | word => AsciiClass.word.bytes

def SetOperator.apply {α : Type} [Alphabet α] : SetOperator → IntervalSet α → IntervalSet α →
    IntervalSet α
  | intersection, s, t => s.inter t
  | difference, s, t => s.diff t
  | symmetricDifference, s, t => s.symmDiff t

namespace Flags

/-- Close a set under case folding if case does not count. -/
def foldScalars (f : Flags) (set : IntervalSet Char) : IntervalSet Char :=
  if f.caseInsensitive then Unicode.foldClosure set else set

/-- Close a set of bytes under the case of ASCII letters if case does not count. -/
def foldBytes (f : Flags) (set : IntervalSet UInt8) : IntervalSet UInt8 :=
  if f.caseInsensitive then
    let lower := set.inter AsciiClass.lower.bytes
    let upper := set.inter AsciiClass.upper.bytes
    .ofList (set ++ lower.map (fun r => ⟨r.lo - 32, r.hi - 32⟩) ++
      upper.map (fun r => ⟨r.lo + 32, r.hi + 32⟩))
  else set

def negateIf {α : Type} [Alphabet α] (negated : Bool) (set : IntervalSet α) : IntervalSet α :=
  if negated then set.compl else set

/-- A set of bytes, refused unless all of them are ASCII. -/
def requireAscii (set : IntervalSet UInt8) : Except SyntaxError (IntervalSet UInt8) :=
  if set.all (·.hi ≤ 0x7F) then .ok set else .error .invalidUtf8

def property (f : Flags) (query : PropertyQuery) (negated : Bool) :
    Except SyntaxError (IntervalSet Char) := do
  if !f.unicode then .error .unicodeNotAllowed
  let found :=
    match query with
    | .named name => Unicode.lookup name
    | .valued name value => Unicode.lookupValue name value
  match found with
  | .ok set => .ok (negateIf negated (f.foldScalars set))
  | .error .propertyNotFound => .error .unicodePropertyNotFound
  | .error .valueNotFound => .error .unicodePropertyValueNotFound

/-- The character of a literal. Without Unicode an escaped byte above ASCII stands for itself, and
no such byte is allowed. -/
def literalChar (f : Flags) (l : Literal) : Except SyntaxError Char :=
  if !f.unicode && l.isByte && 0x7F < l.char.toNat then .error .invalidUtf8 else .ok l.char

def literalByte (f : Flags) (l : Literal) : Except SyntaxError UInt8 := do
  let c ← f.literalChar l
  if c.toNat ≤ 0x7F then .ok c.toNat.toUInt8 else .error .unicodeNotAllowed

def perlBytes (kind : PerlClass) (negated : Bool) : Except SyntaxError (IntervalSet UInt8) :=
  requireAscii (negateIf negated kind.bytes)

mutual

/-- The scalar values of a class. -/
def scalars (f : Flags) : ClassSet → Except SyntaxError (IntervalSet Char)
  | .literal l => .ok [.single l.char]
  | .range lo hi => .ok [⟨lo.char, hi.char⟩]
  | .ascii kind negated => .ok (negateIf negated (f.foldScalars kind.scalars))
  | .property query negated => f.property query negated
  | .perl kind negated => .ok (negateIf negated kind.scalars)
  | .bracketed negated body => do return negateIf negated (f.foldScalars (← f.scalars body))
  | .union items => do return .ofList (← f.scalarsOfAll items)
  | .binary op lhs rhs => do
    let s ← f.scalars lhs
    let t ← f.scalars rhs
    return op.apply (f.foldScalars s) (f.foldScalars t)

def scalarsOfAll (f : Flags) : List ClassSet → Except SyntaxError (List (Interval Char))
  | [] => .ok []
  | item :: items => do
    let s ← f.scalars item
    return s ++ (← f.scalarsOfAll items)

end

mutual

/-- The bytes of a class. -/
def bytes (f : Flags) : ClassSet → Except SyntaxError (IntervalSet UInt8)
  | .literal l => do return [.single (← f.literalByte l)]
  | .range lo hi => do return [⟨← f.literalByte lo, ← f.literalByte hi⟩]
  | .ascii kind negated => requireAscii (negateIf negated (f.foldBytes kind.bytes))
  | .property _ _ => .error .unicodeNotAllowed
  | .perl kind negated => perlBytes kind negated
  | .bracketed negated body => do
    requireAscii (negateIf negated (f.foldBytes (← f.bytes body)))
  | .union items => do return .ofList (← f.bytesOfAll items)
  | .binary op lhs rhs => do
    let s ← f.bytes lhs
    let t ← f.bytes rhs
    return op.apply (f.foldBytes s) (f.foldBytes t)

def bytesOfAll (f : Flags) : List ClassSet → Except SyntaxError (List (Interval UInt8))
  | [] => .ok []
  | item :: items => do
    let s ← f.bytes item
    return s ++ (← f.bytesOfAll items)

end

end Flags

end ConstrainedDecoding.Pattern
