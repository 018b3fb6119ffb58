import ConstrainedDecoding.Tokenizer.Lexicon

/-! Texts that are split into words so that the scores of the words add up to the most. -/

namespace ConstrainedDecoding.Tokenizer

structure Unigram where
  lexicon : Lexicon
  /-- The words and their scores by id. -/
  scores : Array (String × Float)
  unknown : Option TokenId
  byteFallback : Bool

namespace Unigram

/-- The best way to reach a position of a text: its score, where its last word begins and the id of
that word. -/
structure Path where
  score : Float
  start : Nat
  id : TokenId

/-- A character that is no word costs more than the worst word by this. -/
def penalty : Float := 10

def unknownScore (m : Unigram) : Float :=
  m.scores.foldl (fun least (_, s) => if s < least then s else least) (1.0 / 0.0) - penalty

/-- Whether a path with a score is better than the one to a position that is known. -/
def isBetter (paths : Array (Option Path)) (position : Nat) (score : Float) : Bool :=
  (paths.getD position none).all (·.score < score)

/-- Keep the better of a path to a position and the one that is known. -/
def improve (paths : Array (Option Path)) (position : Nat) (p : Path) : Array (Option Path) :=
  if isBetter paths position p.score then paths.setIfInBounds position (some p) else paths

/-- The words that begin a text, with their lengths. -/
def wordsAt (m : Unigram) (text : List Char) : List (TokenId × Nat) :=
  (List.range text.length).filterMap fun n =>
    (m.lexicon.id? (String.ofList (text.take (n + 1)))).map (·, n + 1)

/-- Take all words that begin at `position`, and the single character if it is no word. -/
def extend (m : Unigram) (paths : Array (Option Path)) (position : Nat) (text : List Char) :
    Except EncodeError (Array (Option Path)) :=
  let here := ((paths.getD position none).map (·.score)).getD 0
  let words := m.wordsAt text
  let paths := words.foldl (fun paths (id, n) =>
    let score := (m.scores.getD id ("", 0)).2 + here
    improve paths (position + n) { score, start := position, id }) paths
  let unknownScore := m.unknownScore + here
  if words.any (·.2 == 1) || !isBetter paths (position + 1) unknownScore then .ok paths
  else
    match m.unknown with
    | some id => .ok (improve paths (position + 1) { score := unknownScore, start := position, id })
    | none => .error .unigramUnknown

/-- The best paths to all positions of a text. -/
def search (m : Unigram) (paths : Array (Option Path)) (position : Nat) :
    List Char → Except EncodeError (Array (Option Path))
  | [] => .ok paths
  | c :: cs => do search m (← m.extend paths position (c :: cs)) (position + 1) cs

/-- The words of the best path to a position, put in front of `found`; neighbours that are unknown
are one word. `fuel` bounds their number. -/
def collect (m : Unigram) (text : List Char) (paths : Array (Option Path)) :
    (fuel position : Nat) → (wasUnknown : Bool) → List (List Char) → List (List Char)
  | 0, _, _, found => found
  | fuel + 1, position, wasUnknown, found =>
    match paths.getD position none with
    | none => found
    | some p =>
      let word := (text.take position).drop p.start
      let isUnknown := m.unknown == some p.id
      match found with
      | next :: rest =>
        if wasUnknown && isUnknown then
          collect m text paths fuel p.start true ((word ++ next) :: rest)
        else collect m text paths fuel p.start isUnknown (word :: next :: rest)
      | [] => collect m text paths fuel p.start isUnknown [word]

/-- The ids for a word, which are those of its bytes where it is unknown and they are known. -/
def idsOf (m : Unigram) (word : List Char) : Except EncodeError (List TokenId) :=
  match m.lexicon.id? (String.ofList word) with
  | some id => .ok [id]
  | none =>
    match if m.byteFallback then m.lexicon.byteIds? word else none with
    | some ids => .ok ids
    | none =>
      match m.unknown with
      | some id => .ok [id]
      | none => .error .unigramUnknown

def tokenize (m : Unigram) (text : List Char) : Except EncodeError (List TokenId) := do
  let n := text.length
  let paths ← m.search (Array.replicate (n + 1) none) 0 text
  let words := m.collect text paths n n false []
  return (← words.mapM m.idsOf).flatten

end Unigram

end ConstrainedDecoding.Tokenizer
