import ConstrainedDecoding.Tokenizer.Model
import ConstrainedDecoding.Tokenizer.PreTokenizer

/-! Tokens that are added to a model and found in texts before anything else. -/

namespace ConstrainedDecoding.Tokenizer

structure AddedToken where
  content : String
  /-- Whether it is found only where no word goes on. -/
  singleWord : Bool
  /-- Whether it takes the white space before it. -/
  takesLeft : Bool
  /-- Whether it takes the white space after it. -/
  takesRight : Bool
  /-- Whether it is looked for after normalization. -/
  normalized : Bool
  special : Bool
deriving DecidableEq

structure AddedTokens where
  /-- The id of each content. -/
  ids : List (String × TokenId)
  /-- The token of each id. -/
  tokens : List (TokenId × AddedToken)
  /-- The tokens that are looked for, special ones first. -/
  special : List AddedToken
  ordinary : List AddedToken

namespace AddedTokens

def empty : AddedTokens := { ids := [], tokens := [], special := [], ordinary := [] }

def id? (a : AddedTokens) (content : String) : Option TokenId := a.ids.lookup content

def token? (a : AddedTokens) (id : TokenId) : Option AddedToken := a.tokens.lookup id

/-- One more than the largest id. -/
def bound (a : AddedTokens) : Nat := a.ids.foldl (fun m (_, id) => max m (id + 1)) 0

/-- The first id that is used neither by added tokens nor, going by its size, by a model. -/
def nextId (a : AddedTokens) (m : Model) : TokenId := max a.bound m.size

/-- Put an entry in the place of the one with its key. -/
def replaceEntry {κ α : Type} [DecidableEq κ] (key : κ) (value : α) (entries : List (κ × α)) :
    List (κ × α) :=
  (key, value) :: entries.filter (·.1 ≠ key)

def noteSpecial (a : AddedTokens) (t : AddedToken) : AddedTokens :=
  if t.special && !t.content.isEmpty && !(a.special.any (·.content == t.content)) then
    { a with special := a.special ++ [t] }
  else a

/-- Add a token. One whose content is a word already keeps its id. -/
def add (m : Model) (a : AddedTokens) (t : AddedToken) : AddedTokens :=
  if t.content.isEmpty || a.tokens.any (·.2 = t) then a
  else
    let id := ((a.id? t.content).or (m.lexicon.id? t.content)).getD (a.nextId m)
    { a with
      ids := replaceEntry t.content id a.ids
      tokens := replaceEntry id t a.tokens
      ordinary :=
        if a.special.any (·.content == t.content) then a.ordinary else a.ordinary ++ [t] }

def ofList (m : Model) (tokens : List AddedToken) : AddedTokens :=
  tokens.foldl (add m) (tokens.foldl noteSpecial empty)

/-- The text that a token is looked for as. -/
structure Needle where
  text : List Char
  id : TokenId

/-- The tokens that are looked for before normalization, or after it. -/
def needles (a : AddedTokens) (n : Option Normalizer) (normalized : Bool) : List Needle :=
  ((a.special ++ a.ordinary).filter (·.normalized == normalized)).filterMap fun t =>
    let text := t.content.toList
    (a.id? t.content).map fun id =>
      { text := if normalized then Normalizer.chars n text else text, id }

/-- The longest of the needles that a text begins with; of equal ones the first. -/
def find? (needles : List Needle) (text : List Char) : Option Needle :=
  needles.foldl (fun best n =>
    if n.text.isPrefixOf text && !(best.any fun b => n.text.length ≤ b.text.length) then some n
    else best) none

/-- A needle that has been found, between two positions. -/
structure Hit where
  start : Nat
  stop : Nat
  id : TokenId

/-- The needles in a text, from left to right. An empty one right after another hit, which ended at
`last`, does not count; the search then goes on a byte later, which has to be a character later.
`fuel` bounds the length of the text. -/
def hits (needles : List Needle) : (fuel : Nat) → (position : Nat) → (last : Option Nat) →
    List Char → Except EncodeError (List Hit)
  | 0, _, _, _ => .ok []
  | fuel + 1, position, last, text =>
    match find? needles text, text with
    | none, [] => .ok []
    | none, _ :: cs => hits needles fuel (position + 1) last cs
    | some n, text =>
      if n.text.isEmpty && last = some position then
        match text with
        | [] => .ok []
        | c :: cs =>
          if c.utf8Size = 1 then hits needles fuel (position + 1) last cs else .error .impossible
      else do
        let stop := position + n.text.length
        let rest ← hits needles fuel stop (some stop) (text.drop n.text.length)
        return { start := position, stop, id := n.id } :: rest

/-- Whether a hit is no part of a longer word. -/
def standsAlone (text : List Char) (h : Hit) : Bool :=
  let isWord (c : Char) : Bool := Unicode.wordCharacters.get.contains c
  !((text.take h.start).getLast?.any isWord || (text.drop h.stop).head?.any isWord)

/-- A hit with the white space that its token takes, of which what comes before `taken` is gone. -/
def extend (t : AddedToken) (text : List Char) (taken : Nat) (h : Hit) : Hit :=
  let before := (text.take h.start).reverse.takeWhile Unicode.isWhiteSpace
  let after := (text.drop h.stop).takeWhile Unicode.isWhiteSpace
  { h with
    start := if t.takesLeft then max (h.start - before.length) taken else h.start
    stop := if t.takesRight then h.stop + after.length else h.stop }

/-- A part of a text: an added token, or a piece between them. -/
inductive Part
  | token (id : TokenId)
  | piece (p : Aligned)

/-- What is between two positions, unless it is empty. -/
def part (text : Aligned) (start stop : Nat) (make : Aligned → Part) : List Part :=
  let p := (text.take stop).drop start
  if p.isEmpty then [] else [make p]

/-- Cut a text at hits; it has been cut up to `taken`. -/
def cut (a : AddedTokens) (text : Aligned) (taken : Nat) : List Hit → Except EncodeError (List Part)
  | [] => .ok (part text taken text.length .piece)
  | h :: hs =>
    match a.token? h.id with
    | none => cut a text taken hs
    | some t =>
      if t.singleWord && !standsAlone text.chars h then cut a text taken hs
      else do
        let h := extend t text.chars taken h
        if h.stop < h.start then throw .impossible
        let rest ← cut a text h.stop hs
        return part text taken h.start .piece ++ part text h.start h.stop (fun _ => .token h.id) ++
          rest

/-- Split a text at the needles in it. -/
def split (a : AddedTokens) (needles : List Needle) (text : Aligned) :
    Except EncodeError (List Part) := do
  if text.isEmpty then return []
  a.cut text 0 (← hits needles (2 * text.length + 2) 0 none text.chars)

/-- The parts of a text: first the tokens that are looked for in the text as it is, then those that
are looked for in the normalized text between them. -/
def parts (a : AddedTokens) (n : Option Normalizer) (text : List Char) :
    Except EncodeError (List Part) := do
  let later := a.needles n true
  let found ← (← a.split (a.needles n false) (.ofChars text)).mapM fun
    | .token id => .ok [.token id]
    | .piece p => a.split later ((n.map (·.apply p)).getD p)
  return found.flatten

end AddedTokens

end ConstrainedDecoding.Tokenizer
