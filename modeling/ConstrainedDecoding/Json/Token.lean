import ConstrainedDecoding.Json.Number

/-! The tokens of a JSON text. -/

namespace ConstrainedDecoding.Json

inductive Token
  | beginArray
  | endArray
  | beginObject
  | endObject
  | colon
  | comma
  | null
  | bool (b : Bool)
  | number (n : Number)
  /-- A string, or none if an escape of it is half of a character. -/
  | string (s : Option String)
deriving DecidableEq

namespace Token

def isBlank (c : Char) : Bool := c == ' ' || c == '\n' || c == '\t' || c == '\r'

def punctuation? : Char → Option Token
  | '[' => some beginArray
  | ']' => some endArray
  | '\x7b' => some beginObject
  | '\x7d' => some endObject
  | ':' => some colon
  | ',' => some comma
  | _ => none

/-- Characters of which literals and numbers consist. -/
def isWordChar (c : Char) : Bool := c.isAlphanum || c == '+' || c == '-' || c == '.'

def ofWord? (word : List Char) : Option Token :=
  if word = ['n', 'u', 'l', 'l'] then some null
  else if word = ['t', 'r', 'u', 'e'] then some (bool true)
  else if word = ['f', 'a', 'l', 's', 'e'] then some (bool false)
  else (Number.ofChars? word).map number

/-- Split after the quote that closes a string. Escapes stay as they are. -/
def splitString : List Char → Option (List Char × List Char)
  | [] => none
  | '"' :: s => some ([], s)
  | '\\' :: c :: s => (splitString s).map fun (body, rest) => ('\\' :: c :: body, rest)
  | c :: s =>
    if c < ' ' then none else (splitString s).map fun (body, rest) => (c :: body, rest)

theorem length_lt_of_splitString {s body rest : List Char} (h : splitString s = some (body, rest)) :
    rest.length < s.length := by
  fun_induction splitString s generalizing body rest with
  | case1 => simp at h
  | case2 s => simp_all
  | case3 c s ih =>
    obtain ⟨⟨b, r⟩, hs, he⟩ := Option.map_eq_some_iff.1 h
    obtain ⟨-, rfl⟩ := Prod.mk.inj he
    have := ih hs
    simp only [List.length_cons]
    omega
  | case4 c s _ _ hc => simp at h
  | case5 c s _ _ hc ih =>
    obtain ⟨⟨b, r⟩, hs, he⟩ := Option.map_eq_some_iff.1 h
    obtain ⟨-, rfl⟩ := Prod.mk.inj he
    have := ih hs
    simp only [List.length_cons]
    omega

def escape? : Char → Option Nat
  | '"' => some 0x22
  | '\\' => some 0x5C
  | '/' => some 0x2F
  | 'b' => some 0x08
  | 'f' => some 0x0C
  | 'n' => some 0x0A
  | 'r' => some 0x0D
  | 't' => some 0x09
  | _ => none

/-- The codes that a string body stands for; a character may be escaped as two surrogates. -/
def codes : List Char → Option (List Nat)
  | [] => some []
  | '\\' :: 'u' :: a :: b :: c :: d :: s => do
    let code ← Numeral.ofDigits? 16 0 [a, b, c, d]
    return code :: (← codes s)
  | '\\' :: c :: s => do return (← escape? c) :: (← codes s)
  | c :: s => do return c.toNat :: (← codes s)

/-- The characters of codes, unless there is a surrogate that does not belong to a pair. -/
def characters : List Nat → Option (List Char)
  | [] => some []
  | high :: low :: s =>
    if 0xD800 ≤ high ∧ high < 0xDC00 ∧ 0xDC00 ≤ low ∧ low < 0xE000 then do
      let c := Char.ofNat (0x10000 + (high - 0xD800) * 0x400 + (low - 0xDC00))
      return c :: (← characters s)
    else do
      return (← scalar? high) :: (← characters (low :: s))
  | [code] => (scalar? code).map ([·])

/-- The tokens of a text. -/
def ofChars (s : List Char) : Option (List Token) :=
  match s with
  | [] => some []
  | c :: s =>
    if isBlank c then ofChars s
    else if c = '"' then
      match _h : splitString s with
      | none => none
      | some (body, rest) => do
        let text := (characters (← codes body)).map String.ofList
        return string text :: (← ofChars rest)
    else if isWordChar c then do
      let token ← ofWord? (c :: s.takeWhile isWordChar)
      return token :: (← ofChars (s.dropWhile isWordChar))
    else do
      return (← punctuation? c) :: (← ofChars s)
termination_by s.length
decreasing_by
  · simp
  · have := length_lt_of_splitString _h
    simp only [List.length_cons]
    omega
  · have := (List.dropWhile_suffix (p := isWordChar) (l := s)).length_le
    simp only [List.length_cons]
    omega
  · simp

end Token

end ConstrainedDecoding.Json
