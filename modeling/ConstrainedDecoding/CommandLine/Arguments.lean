import ConstrainedDecoding.CommandLine.Command
import ConstrainedDecoding.Text.Numeral

/-!
Reading the arguments of the command line: the word of an action, then options with their values in
any order. Everything after two hyphens is text.
-/

namespace ConstrainedDecoding.CommandLine

inductive Verb
  | compile
  | allowed
  | check
  | sample
deriving DecidableEq

namespace Verb

def all : List Verb := [compile, allowed, check, sample]

def name : Verb → String
  | compile => "compile"
  | allowed => "allowed"
  | check => "check"
  | sample => "sample"

def ofName? (name : String) : Option Verb := all.find? (·.name = name)

/-- The options that an action has besides those of the source. -/
def options : Verb → List String
  | compile | check => []
  | allowed => ["prefix", "limit"]
  | sample => ["seed", "max-tokens", "backend"]

def sourceOptions : List String := ["tokenizer", "pattern", "config", "eos-token-id"]

/-- Whether an action has an option. -/
def hasOption (v : Verb) (option : String) : Bool :=
  sourceOptions.contains option || v.options.contains option

end Verb

/-- The number of a token. Zero may have a minus sign. -/
def tokenId? (s : String) : Option TokenId :=
  match s.toList with
  | '-' :: digits => if !digits.isEmpty && digits.all (· = '0') then some 0 else none
  | _ => Numeral.ofString? 32 s

/-- Parts of a list that is separated by commas. -/
def items (s : List Char) : List (List Char) := s.splitOn ','

/-- What the arguments have given up to now. -/
structure Values where
  tokenizer : Option String := none
  pattern : Option String := none
  config : Option String := none
  eos : Option TokenId := none
  tokens : List TokenId := []
  limit : Option Nat := none
  text : Option String := none
  seed : Option Nat := none
  maxTokens : Option Nat := none
  backend : Option Backend := none

namespace Values

/-- A value that may be given only once. -/
def once {α : Type} (old new : Option α) : Option (Option α) :=
  match old with
  | some _ => none
  | none => new.map some

/-- A path, which has at least one character. -/
def path? (s : String) : Option String := if s.isEmpty then none else some s

def set? (v : Values) (option value : String) : Option Values :=
  match option with
  | "tokenizer" => return { v with tokenizer := ← once v.tokenizer (path? value) }
  | "pattern" => return { v with pattern := ← once v.pattern (some value) }
  | "config" => return { v with config := ← once v.config (path? value) }
  | "eos-token-id" => return { v with eos := ← once v.eos (tokenId? value) }
  | "prefix" => do
    let tokens ← (items value.toList).mapM fun item => tokenId? (String.ofList item)
    return { v with tokens := v.tokens ++ tokens }
  | "limit" => return { v with limit := ← once v.limit (Numeral.ofString? 64 value) }
  | "seed" => return { v with seed := ← once v.seed (Numeral.ofString? 64 value) }
  | "max-tokens" => return { v with maxTokens := ← once v.maxTokens (Numeral.ofString? 64 value) }
  | "backend" => return { v with backend := ← once v.backend (Backend.ofName value).toOption }
  | _ => none

/-- Give an option of an action. -/
def setOption? (v : Values) (verb : Verb) (option value : String) : Option Values :=
  if verb.hasOption option then v.set? option value else none

/-- Give a text, which only checks ask for. -/
def setText? (v : Values) (verb : Verb) (text : String) : Option Values :=
  if verb = .check then return { v with text := ← once v.text (some text) } else none

/-- What an action is to do, with a default for what was not given. -/
def action? (v : Values) : Verb → Option Action
  | .compile => some .compile
  | .allowed => some (.allowed v.tokens (v.limit.getD 50))
  | .check => v.text.map .check
  | .sample =>
    some (.sample (v.seed.getD 0) (v.maxTokens.getD 64) (v.backend.getD .transformers))

def command? (v : Values) (verb : Verb) : Option Command := do
  let source : Source := {
    tokenizer := ← v.tokenizer, pattern := ← v.pattern, config := v.config, eos := v.eos }
  return { source, action := ← v.action? verb }

end Values

inductive Request
  | help
  | run (command : Command)
deriving DecidableEq

namespace Request

/-- Whether an argument can be the value of the option before it. Those that begin with a hyphen are
options themselves, unless there is nothing else to them. -/
def isValue (arg : String) : Bool := arg.toList.head? ≠ some '-' || arg = "-"

/-- Read the arguments that follow the word of an action. -/
def read? (verb : Verb) (v : Values) : List String → Option Request
  | [] => (v.command? verb).map .run
  | arg :: rest =>
    match arg.toList with
    | ['-', '-'] => do
      let v ← rest.foldlM (·.setText? verb ·) v
      return .run (← v.command? verb)
    | '-' :: '-' :: option =>
      let name := String.ofList (option.takeWhile (· ≠ '='))
      match option.dropWhile (· ≠ '=') with
      | _ :: value => do read? verb (← v.setOption? verb name (String.ofList value)) rest
      | [] =>
        if name = "help" then some .help
        else
          match rest with
          | [] => none
          | value :: rest =>
            if isValue value then do read? verb (← v.setOption? verb name value) rest else none
    | '-' :: 'h' :: _ => some .help
    | '-' :: _ :: _ => none
    | _ => do read? verb (← v.setText? verb arg) rest

/-- Whether there is help on a topic. -/
def isTopic (name : String) : Bool := name = "help" || (Verb.ofName? name).isSome

/-- What the arguments ask for; none if they cannot be understood. -/
def ofArguments? : List String → Option Request
  | [] => none
  | "help" :: topics =>
    if topics.length ≤ 1 && topics.all isTopic then some .help else none
  | "--help" :: _ => some .help
  | name :: rest =>
    match name.toList with
    | '-' :: 'h' :: _ => some .help
    | _ => do read? (← Verb.ofName? name) {} rest

end Request

end ConstrainedDecoding.CommandLine
