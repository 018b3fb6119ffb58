import ConstrainedDecoding.Error
import ConstrainedDecoding.Tokenizer.EncodeError
import ConstrainedDecoding.Utf8.Encode
import Std.Data.HashMap

/-! The words of a tokenizer and their ids. -/

namespace ConstrainedDecoding.Tokenizer

structure Lexicon where
  ids : Std.HashMap String TokenId
  words : Std.HashMap TokenId String

namespace Lexicon

/-- Of two entries for a word the later one counts. -/
def ofList (entries : List (String × TokenId)) : Lexicon :=
  let ids := entries.foldl (fun m (word, id) => m.insert word id) (∅ : Std.HashMap String TokenId)
  { ids, words := ids.fold (fun m word id => m.insert id word) ∅ }

def size (l : Lexicon) : Nat := l.ids.size

def id? (l : Lexicon) (word : String) : Option TokenId := l.ids[word]?

def word? (l : Lexicon) (id : TokenId) : Option String := l.words[id]?

/-- The word for a single byte. -/
def byteWord (b : UInt8) : String :=
  let digit (n : Nat) : Char := (Nat.digitChar n).toUpper
  String.ofList ['<', '0', 'x', digit (b.toNat / 16), digit (b.toNat % 16), '>']

/-- The ids for the bytes of a text, if there are words for all of them. -/
def byteIds? (l : Lexicon) (text : List Char) : Option (List TokenId) :=
  (Utf8.encode text).mapM fun b => l.id? (byteWord b)

/-- One more than the largest id. -/
def bound (l : Lexicon) : Nat := l.ids.fold (fun m _ id => max m (id + 1)) 0

end Lexicon

end ConstrainedDecoding.Tokenizer
