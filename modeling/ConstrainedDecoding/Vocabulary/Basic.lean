import ConstrainedDecoding.Error
import ConstrainedDecoding.Utf8.Encode

/-! Vocabularies: what the tokens of a model stand for. -/

namespace ConstrainedDecoding

inductive TokenKind
  /-- Stands for its bytes. -/
  | text
  /-- Ends a sequence. -/
  | endOfSequence
  /-- Controls the model and is never chosen. -/
  | special
deriving DecidableEq, Hashable

structure VocabularyEntry where
  kind : TokenKind
  bytes : List UInt8 := []
deriving DecidableEq, Hashable

/-- The tokens that end a sequence. -/
def eosIds (entries : Array VocabularyEntry) : List TokenId :=
  (List.range entries.size).filter fun id => entries[id]?.any (·.kind == .endOfSequence)

/-- The entries of the tokens by their ids, and the one token that ends a sequence. -/
structure Vocabulary where
  entries : Array VocabularyEntry
  eos : TokenId
  eosIds_entries : eosIds entries = [eos]
deriving DecidableEq

namespace Vocabulary

/-- Token ids are words of 32 bits. -/
def idCount : Nat := 0x100000000

/-- The ids of entries are their positions, which are not cut: there are words for up to `idCount` entries. -/
def ofEntries (entries : Array VocabularyEntry) : Except Error Vocabulary :=
  match h : eosIds entries with
  | [] => .error .noEosToken
  | [eos] => .ok { entries, eos, eosIds_entries := h }
  | first :: second :: _ => .error (.severalEosTokens first second)

/-- The entry of a token that a decoder stands for. There are no bytes for special tokens, and what it gives
for the token that ends a sequence has no meaning. -/
def entryOf (eos : TokenId) (decode : TokenId → Option (List UInt8)) (id : TokenId) :
    VocabularyEntry :=
  if id = eos then { kind := .endOfSequence }
  else
    match decode id with
    | some bytes => { kind := .text, bytes }
    | none => { kind := .special }

/-- The vocabulary of a decoder. -/
def ofDecoder (size : Nat) (eos : TokenId) (decode : TokenId → Option (List UInt8)) :
    Except Error Vocabulary :=
  if size ≤ eos then .error (.eosOutOfRange eos size)
  else ofEntries ((Array.range (size % idCount)).map (entryOf eos decode))

/-- Every token but one stands for its bytes. -/
def ofTokens (eos : TokenId) (tokens : Array (List UInt8)) : Except Error Vocabulary :=
  ofDecoder tokens.size eos (tokens[·]?)

/-- The same for tokens that are strings. -/
def ofTexts (eos : TokenId) (texts : List String) : Except Error Vocabulary :=
  ofTokens eos (texts.map fun t => Utf8.encode t.toList).toArray

/-- The bytes of tokens in the order of their ids, with none where nothing has come yet. -/
abbrev Slots := Array (Option (List UInt8))

/-- Put bytes into the slot of an id, which is made if there are not so many slots yet, and may not be
taken. -/
def fill (slots : Slots) (id : TokenId) (bytes : List UInt8) : Except Error Slots :=
  let slots := slots ++ Array.replicate (id + 1 - slots.size) none
  if (slots.getD id none).isSome then .error (.repeatedTokenId id)
  else .ok (slots.setIfInBounds id (some bytes))

/-- The bytes of pairs in the slots of their ids, unless an id comes twice. -/
def collect (pairs : List (TokenId × List UInt8)) : Except Error Slots :=
  pairs.foldlM (fun slots (id, bytes) => fill slots id bytes) #[]

/-- The vocabulary of tokens in any order, whose ids leave no gap. -/
def ofPairs (eos : TokenId) (pairs : List (TokenId × List UInt8)) : Except Error Vocabulary := do
  let slots ← collect pairs
  match slots.findIdx? Option.isNone with
  | some missing => .error (.missingTokenId missing)
  | none => ofTokens eos (slots.filterMap id)

def size (v : Vocabulary) : Nat := v.entries.size

def isEmpty (v : Vocabulary) : Bool := v.entries.isEmpty

def entry? (v : Vocabulary) (id : TokenId) : Option VocabularyEntry := v.entries[id]?

/-- The bytes that are kept with a token; unknown tokens have none. -/
def bytes (v : Vocabulary) (id : TokenId) : List UInt8 :=
  match v.entry? id with
  | some e => e.bytes
  | none => []

/-- A hash of the table. -/
def fingerprint (v : Vocabulary) : UInt64 := mixHash (hash v.eos) (hash v.entries)

/-- The bytes of a sequence of tokens. -/
def decode (v : Vocabulary) (ids : List TokenId) : List UInt8 := ids.flatMap v.bytes

end Vocabulary

end ConstrainedDecoding
