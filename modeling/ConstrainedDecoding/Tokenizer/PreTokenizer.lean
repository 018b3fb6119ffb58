import ConstrainedDecoding.Tokenizer.EncodeError
import ConstrainedDecoding.Tokenizer.Normalizer
import ConstrainedDecoding.Unicode.Current

/-! Splitting texts into the pieces that are turned into ids one by one. -/

namespace ConstrainedDecoding.Tokenizer

/-- Where a space is put in front. -/
inductive PrependScheme
  | first
  | never
  | always
deriving DecidableEq

inductive PreTokenizer
  | byteLevel (addsSpace splitsWords : Bool)
  | metaspace (replacement : Char) (scheme : PrependScheme) (splits : Bool)
  /-- Words, and what is neither word nor space. -/
  | words
  /-- What is between spaces. -/
  | spaces
  | delimiter (c : Char)
  | digits (individual : Bool)
  | punctuation (behavior : SplitBehavior)
  /-- What is between spaces, with punctuation by itself. -/
  | spacesAndPunctuation
  | pattern (e : Expression) (behavior : SplitBehavior) (inverted : Bool)
  /-- Runs of characters of one script. -/
  | scripts
  | fixedLength (length : Nat)
  | sequence (parts : List PreTokenizer)

namespace PreTokenizer

def letters : Thunk (IntervalSet Char) := Thunk.mk fun _ => Unicode.inCategories ["l"]

def numbers : Thunk (IntervalSet Char) := Thunk.mk fun _ => Unicode.inCategories ["n"]

/-- Endings that are words of their own. -/
def contractions : List (List Char) :=
  ["'s", "'t", "'re", "'ve", "'m", "'ll", "'d"].map String.toList

/-- The length of a run of characters with a property, which a space may come before; zero if there
is none. -/
def spacedRun (p : Char → Bool) : List Char → Nat
  | ' ' :: text =>
    match runLength p text with
    | 0 => runLength p (' ' :: text)
    | n => n + 1
  | text => runLength p text

/-- Neither white space nor letter nor number. -/
def isSymbol (c : Char) : Bool :=
  !(Unicode.isWhiteSpace c || letters.get.contains c || numbers.get.contains c)

/-- The length of the byte-level word at the front of a text: an ending, a run of letters, of
numbers or of symbols, or white space, which leaves its last character to a word that follows. -/
def wordLength (text : List Char) : Nat :=
  match contractions.find? (·.isPrefixOf text) with
  | some ending => ending.length
  | none =>
    match [letters.get.contains, numbers.get.contains, isSymbol].findSome? fun p =>
        match spacedRun p text with
        | 0 => none
        | n => some n with
    | some n => n
    | none =>
      let n := runLength Unicode.isWhiteSpace text
      if n < text.length && 1 < n then n - 1 else n

/-- The length of a run of word characters, or of what is neither a word nor a space. -/
def plainLength (text : List Char) : Nat :=
  let isWord (c : Char) : Bool := Unicode.wordCharacters.get.contains c
  max (runLength isWord text) (runLength (fun c => !(Unicode.isWhiteSpace c || isWord c)) text)

/-- The visible characters of ASCII that are neither letters nor digits count as punctuation. -/
def isPunctuation (c : Char) : Bool :=
  if c.toNat < 0x80 then '!' ≤ c && c ≤ '~' && !c.isAlphanum
  else Unicode.punctuation8.get.contains c

/-- The script of a character, where the two syllabaries of Japanese count as ideographs. Spaces and
characters without a script go with any other. -/
def script? (c : Char) : Option String :=
  if c = ' ' then none
  else if c = '\u30fc' then some "hani"
  else (Unicode.scriptOf? c).map fun name => if name = "hira" || name = "kana" then "hani" else name

/-- Give characters that go with any script that of the text before them. -/
def withScripts (last : Option String) : Aligned → List (Option String × Glyph)
  | [] => []
  | g :: gs =>
    let script := (script? g.char).or last
    (script, g) :: withScripts script gs

/-- Runs of characters of one script. What comes before the first script is dropped. -/
def scriptRuns (text : Aligned) : List Aligned :=
  let known := (withScripts none text).dropWhile (·.1.isNone)
  (known.splitBy fun a b => a.1 == b.1).map (·.map (·.2))

/-- Pieces of a length, of which the last one may be shorter. -/
def chunks (length : Nat) (text : Aligned) : List Aligned :=
  match _h : text with
  | [] => []
  | g :: gs => (g :: gs.take (length - 1)) :: chunks length (gs.drop (length - 1))
termination_by text.length
decreasing_by
  simp only [List.length_cons, List.length_drop]
  omega

def putInFront (c : Char) (text : Aligned) : Aligned :=
  if text.chars.head? = some c then text else ⟨c, text.start⟩ :: text

mutual

def apply : PreTokenizer → Aligned → Except EncodeError (List Aligned)
  | byteLevel addsSpace splitsWords, text =>
    let text := if addsSpace then putInFront ' ' text else text
    let pieces :=
      if splitsWords then SplitBehavior.isolated.pieces (segmentsBy wordLength text) else [text]
    .ok (pieces.map Aligned.byteLevel)
  | metaspace replacement scheme splits, text =>
    let isFirst := text.start = 0
    let text := text.flatMapChars fun c => [if c = ' ' then replacement else c]
    let text :=
      if scheme = .always ∨ (scheme = .first ∧ isFirst) then putInFront replacement text else text
    .ok <|
      if splits then SplitBehavior.mergedWithNext.pieces (segmentsOf (· = replacement) text)
      else [text]
  | words, text =>
    .ok (((segmentsBy plainLength text).filter (·.2)).map (·.1))
  | spaces, text => .ok (SplitBehavior.removed.pieces (segmentsOf Unicode.isWhiteSpace text))
  | delimiter c, text => .ok (SplitBehavior.removed.pieces (segmentsOf (· = c) text))
  | digits individual, text =>
    let behavior : SplitBehavior := if individual then .isolated else .contiguous
    .ok (behavior.pieces (segmentsOf Unicode.isNumeric text))
  | punctuation behavior, text => .ok (behavior.pieces (segmentsOf isPunctuation text))
  | spacesAndPunctuation, text =>
    let pieces := SplitBehavior.removed.pieces (segmentsOf Unicode.isWhiteSpace text)
    .ok (pieces.flatMap fun text =>
      SplitBehavior.isolated.pieces (segmentsOf isPunctuation text))
  | pattern e behavior inverted, text =>
    .ok (behavior.pieces ((e.segments text).map fun (text, isMatch) => (text, isMatch != inverted)))
  | scripts, text => .ok (scriptRuns text)
  | fixedLength length, text =>
    if length = 0 then .error .impossible else .ok (chunks length text)
  | sequence parts, text => applyAll parts [text]

def applyAll : List PreTokenizer → List Aligned → Except EncodeError (List Aligned)
  | [], pieces => .ok pieces
  | part :: parts, pieces => do
    applyAll parts (← pieces.mapM part.apply).flatten

end

end PreTokenizer

end ConstrainedDecoding.Tokenizer
