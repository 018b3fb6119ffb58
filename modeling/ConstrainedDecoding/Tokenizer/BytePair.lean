import ConstrainedDecoding.Tokenizer.Lexicon

/-! Words that are built from characters by merging neighbours, the most frequent pairs first. -/

namespace ConstrainedDecoding.Tokenizer

structure BytePair where
  lexicon : Lexicon
  /-- The rank of every pair that merges and the word it becomes. -/
  merges : Std.HashMap (TokenId × TokenId) (Nat × TokenId)
  unknown : Option String
  continuingPrefix : Option String
  endSuffix : Option String
  fuseUnknown : Bool
  byteFallback : Bool
  /-- Texts that are words are not built from characters. -/
  ignoresMerges : Bool
  /-- The share of merges that are left out at random. -/
  dropout : Float

namespace BytePair

/-- Drop characters that take so many bytes together. -/
def dropBytes? : (n : Nat) → List Char → Option (List Char)
  | 0, cs => some cs
  | _, [] => none
  | n, c :: cs => if c.utf8Size ≤ n then dropBytes? (n - c.utf8Size) cs else none

/-- Merges of words that are known, of which the first has rank 0. As many bytes of the second word
as its prefix takes do not go into the word they become. -/
def mergesOfPairs? (lexicon : Lexicon) (prefixBytes : Nat) (pairs : List (String × String)) :
    Option (Std.HashMap (TokenId × TokenId) (Nat × TokenId)) := do
  let entries ← pairs.zipIdx.mapM fun ((a, b), rank) => do
    let pair := (← lexicon.id? a, ← lexicon.id? b)
    let merged := String.ofList (a.toList ++ (← dropBytes? prefixBytes b.toList))
    return (pair, rank, ← lexicon.id? merged)
  return entries.foldl (fun m (pair, target) => m.insert pair target) ∅

/-- The words of single characters. `pending` is a word for unknown characters that has not been put
out yet, `isFirst` says whether the first character is that of the text. -/
def initialWords (m : BytePair) (pending : Option TokenId) (isFirst : Bool) :
    List Char → Except EncodeError (List TokenId)
  | [] => .ok pending.toList
  | c :: cs =>
    let start := if isFirst then [] else (m.continuingPrefix.getD "").toList
    let stop := if cs.isEmpty then (m.endSuffix.getD "").toList else []
    let s := start ++ c :: stop
    match m.lexicon.id? (String.ofList s) with
    | some id => do return pending.toList ++ id :: (← initialWords m none false cs)
    | none =>
      match if m.byteFallback then m.lexicon.byteIds? s else none with
      | some ids => do return ids ++ (← initialWords m pending false cs)
      | none =>
        match m.unknown with
        | none => initialWords m pending false cs
        | some unknown =>
          if pending.isSome && m.fuseUnknown then initialWords m pending false cs
          else
            match m.lexicon.id? unknown with
            | none => .error (.bytePairUnknown unknown)
            | some id => do return pending.toList ++ (← initialWords m (some id) false cs)

/-- The least rank of a pair of neighbours that merges. -/
def bestRank? (m : BytePair) : List TokenId → Option Nat
  | a :: b :: rest =>
    match m.merges[(a, b)]?, bestRank? m (b :: rest) with
    | some (rank, _), some best => some (min rank best)
    | some (rank, _), none => some rank
    | none, best => best
  | _ => none

/-- Merge the first pair of neighbours with a rank. -/
def mergeFirst (m : BytePair) (rank : Nat) : List TokenId → List TokenId
  | a :: b :: rest =>
    match m.merges[(a, b)]? with
    | some (r, merged) => if r = rank then merged :: rest else a :: mergeFirst m rank (b :: rest)
    | none => a :: mergeFirst m rank (b :: rest)
  | words => words

/-- Merge while some pair merges; `fuel` bounds how often. -/
def mergeAll (m : BytePair) : (fuel : Nat) → List TokenId → List TokenId
  | 0, words => words
  | fuel + 1, words =>
    match bestRank? m words with
    | none => words
    | some rank => mergeAll m fuel (mergeFirst m rank words)

/-- With dropout, words are always built from characters, and where all merges are left out, the
words stay characters. Any other share counts as none. -/
def tokenize (m : BytePair) (text : List Char) : Except EncodeError (List TokenId) :=
  let known :=
    if m.ignoresMerges && m.dropout == 0 then m.lexicon.id? (String.ofList text) else none
  match known with
  | some id => .ok [id]
  | none => do
    let words ← m.initialWords none true text
    return if m.dropout == 1 then words else m.mergeAll words.length words

end BytePair

end ConstrainedDecoding.Tokenizer
