import ConstrainedDecoding.Utf8.Decode
import ConstrainedDecoding.Vocabulary.Basic
import ConstrainedDecoding.Vocabulary.Trie

/-! Vocabularies made ready to be run through automata. -/

namespace ConstrainedDecoding

structure VocabularyIndex where
  vocabulary : Vocabulary
  /-- The text tokens that have bytes. -/
  trie : Trie
  /-- The text tokens that have none. -/
  emptyTokens : List TokenId
  /-- How many text tokens are no characters by themselves. -/
  partialTokens : Nat

namespace VocabularyIndex

/-- The tokens that stand for text, in the order of their ids. -/
def textTokens (v : Vocabulary) : List (TokenId × List UInt8) :=
  (List.range v.size).filterMap fun id =>
    match v.entry? id with
    | some { kind := .text, bytes } => some (id, bytes)
    | _ => none

def ofVocabulary (v : Vocabulary) : VocabularyIndex :=
  let (empty, full) := (textTokens v).partition (·.2.isEmpty)
  { vocabulary := v
    trie := full.foldl (fun t (id, bytes) => t.insert bytes id) .empty
    emptyTokens := empty.map (·.1)
    partialTokens := full.countP fun (_, bytes) => !Utf8.isValid bytes }

end VocabularyIndex

end ConstrainedDecoding
