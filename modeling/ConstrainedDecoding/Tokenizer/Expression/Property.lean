import ConstrainedDecoding.Unicode.PropertyName

/-! The sets of characters that expressions can name. -/

namespace ConstrainedDecoding.Tokenizer.Expression

open Unicode

def digits : IntervalSet Char := decimalDigits

def hexDigits : IntervalSet Char := [⟨'0', '9'⟩, ⟨'A', 'F'⟩, ⟨'a', 'f'⟩]

/-- Letters, marks, digits and connectors. -/
def wordSet : Thunk (IntervalSet Char) :=
  Thunk.mk fun _ => IntervalSet.ofList (alphabetic.get ++ inCategories ["m", "nd", "pc"])

def blanks : IntervalSet Char := (inCategories ["zs"]).union [.single '\t']

def punctuation : IntervalSet Char :=
  (inCategories ["p"]).union
    [.single '$', .single '+', ⟨'<', '>'⟩, .single '^', .single (Char.ofNat 0x60), .single '|',
      .single '~']

/-- Characters that are seen. -/
def graphic : IntervalSet Char :=
  IntervalSet.compl (IntervalSet.ofList (whiteSpace ++ inCategories ["cc", "cn"]))

/-- The classes that can also be written like `[:alpha:]`. -/
def class? : String → Option (IntervalSet Char)
  | "alnum" => some (alphabetic.get.union digits)
  | "alpha" => some alphabetic.get
  | "ascii" => some [⟨'\x00', '\x7F'⟩]
  | "blank" => some blanks
  | "cntrl" => some (inCategories ["cc"])
  | "digit" => some digits
  | "graph" => some graphic
  | "lower" => some lowercase
  | "print" => some (graphic.union (inCategories ["zs"]))
  | "punct" => some punctuation
  | "space" => some whiteSpace
  | "upper" => some uppercase
  | "xdigit" => some hexDigits
  | "word" => some wordSet.get
  | _ => none

/-- The characters with a property. In its name, case, blanks, hyphens and underscores do not
count. -/
def property? (name : List Char) : Option (IntervalSet Char) :=
  if name.any (128 ≤ ·.toNat) then none
  else
    let name := (name.filter fun c => c ≠ ' ' && c ≠ '-' && c ≠ '_').map Char.toLower
    let text := String.ofList name
    match class? text with
    | some set => some set
    | none =>
      -- surrogates are not characters
      if text = "cs" || text = "surrogate" then some []
      else if name.take 2 = ['i', 's'] then none
      else (Unicode.lookup text).toOption

end ConstrainedDecoding.Tokenizer.Expression
