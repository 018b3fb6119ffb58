import ConstrainedDecoding.Pattern.Assertion
import ConstrainedDecoding.Pattern.SyntaxError

/-! Everything that can go wrong, by cause, with the report of each cause. -/

namespace ConstrainedDecoding

/-- Numbers without a bound. Words of 32 bits, one of which stands for no state, hold those of automata with fewer
than 2 ^ 32 - 1 states. -/
abbrev StateId := Nat

/-- Words of 32 bits. As they have no bound here, a number has to be cut where an id is made of it. -/
abbrev TokenId := Nat

/-- A construction that is kept within a limit. -/
inductive Bound
  | patternLength
  | repetition
  | nfaStates
  | dfaStates
deriving DecidableEq

def Bound.name : Bound → String
  | patternLength => "pattern length"
  | repetition => "repetition count"
  | nfaStates => "NFA state count"
  | dfaStates => "DFA state count"

inductive Error
  | malformedPattern (cause : Pattern.SyntaxError)
  | unsupportedAssertion (a : Pattern.Assertion)
  | tooComplex (bound : Bound) (limit : Nat)
  | matchesNothing
  | noTokenSequence (vocabularySize : Nat)
  | invalidTransition (state : StateId) (token : TokenId)
  | noEosToken
  | severalEosTokens (first second : TokenId)
  | eosOutOfRange (eos : TokenId) (vocabularySize : Nat)
  | repeatedTokenId (token : TokenId)
  | missingTokenId (token : TokenId)
  | tokenizerUnreadable
  | eosUndetermined (path : String)
  | noLogits
  | unknownBackend (name : String)
  | unevenLogits (logits rows : Nat)
  | repeatedSequence (id : Nat)
  | io
  | json
deriving DecidableEq

/-- The kinds under which errors are reported. -/
inductive ErrorKind
  | pattern
  | patternTooComplex
  | unsatisfiablePattern
  | invalidTransition
  | invalidVocabulary
  | tokenizer
  | unsupportedBackend
  | invalidArgument
  | io
  | json
deriving DecidableEq

def Error.kind : Error → ErrorKind
  | malformedPattern _ | unsupportedAssertion _ => .pattern
  | tooComplex _ _ => .patternTooComplex
  | matchesNothing | noTokenSequence _ => .unsatisfiablePattern
  | invalidTransition _ _ => .invalidTransition
  | noEosToken | severalEosTokens _ _ | eosOutOfRange _ _ | repeatedTokenId _ | missingTokenId _ =>
    .invalidVocabulary
  | tokenizerUnreadable | eosUndetermined _ => .tokenizer
  | noLogits => .unsupportedBackend
  | unknownBackend _ | unevenLogits _ _ | repeatedSequence _ => .invalidArgument
  | io => .io
  | json => .json

/-- What an error of a kind is introduced with. -/
def ErrorKind.heading : ErrorKind → String
  | pattern => "Invalid pattern: "
  | patternTooComplex => "Pattern too complex: "
  | unsatisfiablePattern => "Unsatisfiable pattern: "
  | invalidTransition => "Invalid transition: "
  | invalidVocabulary => "Invalid vocabulary: "
  | tokenizer => "Tokenizer error: "
  | unsupportedBackend => "Unsupported backend: "
  | invalidArgument => "Invalid argument: "
  | io => "IO error: "
  | json => "JSON error: "

def Error.detail : Error → String
  | malformedPattern cause => s!"error: {cause.message}"
  | unsupportedAssertion a =>
    s!"unsupported assertion {a.name}: only ^ and $ anchors can be compiled"
  | tooComplex bound limit => s!"{bound.name} exceeds the limit of {limit}"
  | matchesNothing => "the pattern does not match any string"
  | noTokenSequence size =>
    s!"no sequence of tokens from a vocabulary of {size} can complete a match"
  | invalidTransition state token => s!"token {token} is not allowed from state {state}"
  | noEosToken => "no end-of-sequence token"
  | severalEosTokens first second =>
    s!"multiple end-of-sequence tokens ({first} and {second})"
  | eosOutOfRange eos size =>
    s!"end-of-sequence id {eos} is outside a vocabulary of {size} tokens"
  | repeatedTokenId token => s!"token id {token} appears more than once"
  | missingTokenId token => s!"token ids are not contiguous: {token} is missing"
  | tokenizerUnreadable => "the tokenizer cannot be loaded"
  | eosUndetermined path => s!"could not determine the end-of-sequence token of {path}"
  | noLogits =>
    "cannot use regex-structured generation with an OpenAI model " ++
      "due to the limitations of the OpenAI API"
  | unknownBackend name => s!"unknown model backend: {name}"
  | unevenLogits logits rows => s!"{logits} logits cannot be split into {rows} equal rows"
  | repeatedSequence id => s!"sequence {id} appears more than once in the batch"
  | io => "the file cannot be read"
  | json => "the text is not of the expected form"

def Error.message (e : Error) : String := e.kind.heading ++ e.detail

end ConstrainedDecoding
