import ConstrainedDecoding.CommandLine.Command
import ConstrainedDecoding.Generation.Generator
import ConstrainedDecoding.Generation.Walk
import ConstrainedDecoding.Settings.Json
import ConstrainedDecoding.Text.Quoted
import ConstrainedDecoding.Tokenizer.Vocabulary

/-! What commands do and what they print. -/

namespace ConstrainedDecoding.CommandLine

/-- Why a command fails. Tokens come with the way they are shown. -/
inductive Failure
  | config (path : String) (cause : Error)
  | vocabulary (path : String) (cause : Error)
  | error (pattern : String) (cause : Error)
  | encoding (cause : Tokenizer.EncodeError)
  | givenToken (token : TokenId) (shown : String)
  | textToken (position : Nat) (token : TokenId) (shown : String)
  | unfinished (count : Nat)
  | stuck
deriving DecidableEq

/-- The report of an error. Where a pattern is malformed it shows the pattern. -/
def errorLines (pattern : String) : Error → List String
  | .malformedPattern cause =>
    [ErrorKind.pattern.heading ++ "regex parse error:", "    " ++ pattern,
      "error: " ++ cause.message]
  | e => [e.message]

/-- The error that is behind a failure. -/
def causeLines (cause : Error) : List String := ["", "Caused by:", "    " ++ cause.message]

namespace Failure

def lines : Failure → List String
  | config path cause => s!"Failed to load config {path}" :: causeLines cause
  | vocabulary path cause => s!"Failed to load vocabulary {path}" :: causeLines cause
  | error pattern cause => errorLines pattern cause
  | encoding cause => [s!"Failed to tokenize input: {cause.message}"]
  | givenToken token shown => [s!"Prefix token {token} ({shown}) is not allowed"]
  | textToken position token shown =>
    [s!"Rejected at token {position}: {token} ({shown}) is not allowed"]
  | unfinished count => [s!"Rejected: input ends after {count} tokens in a non-final state"]
  | stuck => ["No token is allowed"]

def message (f : Failure) : String := "Error: " ++ "\n".intercalate f.lines

/-- The code that the program ends with. -/
def exitCode : Failure → UInt32
  | encoding .impossible => 101
  | _ => 1

end Failure

/-- What is read before a guide is built. -/
structure Session where
  settings : Settings
  tokenizer : Tokenizer
  vocabulary : VocabularyIndex

namespace Session

/-- Read the files of a source. `read` gives the texts of those that can be read. -/
def load (read : String → Option String) (s : Source) : Except Failure Session := do
  let settings ← match s.config with
    | none => .ok {}
    | some path => (Settings.ofFile (read path)).mapError (.config path)
  let files : TokenizerFiles := {
    path := s.tokenizer, tokenizer := read s.tokenizer, config := read s.tokenizerConfig }
  let tokenizer ← files.load.mapError (.vocabulary s.tokenizer)
  let v ← (files.vocabulary s.eos).mapError (.vocabulary s.tokenizer)
  return { settings, tokenizer, vocabulary := .ofVocabulary v }

def guide (s : Session) (pattern : String) : Except Failure Guide :=
  (Guide.ofPattern s.settings pattern s.vocabulary).mapError (.error pattern)

/-- A token as it is shown to the user. -/
def describe (s : Session) (token : TokenId) : String :=
  let v := s.vocabulary.vocabulary
  if token = v.eos then "<eos>" else Quoted.quote (Utf8.decodeLossy (v.bytes token))

/-- A number at the end of a column of eight characters. -/
def column (n : Nat) : String :=
  String.ofList ((toString n).toList.leftpad 8 ' ')

def compile (s : Session) (pattern : String) : Except Failure (List String) := do
  let g ← s.guide pattern
  return [
    s!"pattern:            {Quoted.quote g.pattern}",
    s!"byte classes:       {g.dfa.classes.count}",
    s!"automaton states:   {g.dfa.size}",
    s!"accepting states:   {g.dfa.acceptingStates.length}",
    s!"reachable states:   {g.tables.reachableStates.length}",
    s!"token transitions:  {g.tables.transitionCount}",
    s!"vocabulary size:    {g.vocabularySize}"]

def allowed (s : Session) (pattern : String) (tokens : List TokenId) (limit : Nat) :
    Except Failure (List String) := do
  let g ← s.guide pattern
  let state ← tokens.foldlM (fun state token =>
    (g.advance state token).mapError fun _ => Failure.givenToken token (s.describe token)) g.initial
  let next := g.allowedTokens state
  let ending := if g.isFinal state then " (final)" else ""
  let shown := (next.take limit).map fun token => s!"{column token}  {s.describe token}"
  let more := if next.length > limit then [s!"... {next.length - limit} more"] else []
  return s!"state {state}: {next.length} allowed tokens{ending}" :: shown ++ more

def check (s : Session) (pattern text : String) : Except Failure (List String) := do
  let g ← s.guide pattern
  let tokens ← (s.tokenizer.encode text).mapError .encoding
  let state ← tokens.zipIdx.foldlM (fun state (token, position) =>
    (g.advance state token).mapError fun _ =>
      Failure.textToken position token (s.describe token)) g.initial
  if g.isFinal state then return [s!"accepted ({tokens.length} tokens)"]
  else throw (.unfinished tokens.length)

def sample (s : Session) (pattern : String) (seed maxTokens : Nat) (backend : Backend) :
    Except Failure (List String) := do
  let cache : GuideCache := .empty .standard s.settings.cache
  let (generator, _) := Generator.ofPattern cache s.settings backend pattern s.vocabulary
  let generator ← generator.mapError (.error pattern)
  match generator.guide.guide.walk seed.toUInt64 maxTokens with
  | .ok w => return [Utf8.decodeLossy (s.vocabulary.vocabulary.decode w.tokens)]
  | .error (.refused cause) => throw (.error pattern cause)
  | .error .stuck => throw .stuck

def perform (s : Session) (pattern : String) : Action → Except Failure (List String)
  | .compile => s.compile pattern
  | .allowed tokens limit => s.allowed pattern tokens limit
  | .check text => s.check pattern text
  | .sample seed maxTokens backend => s.sample pattern seed maxTokens backend

end Session

namespace Command

/-- The lines that a command prints. `read` gives the texts of the files that can be read. -/
def run (read : String → Option String) (c : Command) : Except Failure (List String) := do
  (← Session.load read c.source).perform c.source.pattern c.action

end Command

end ConstrainedDecoding.CommandLine
