import ConstrainedDecoding.Generation.Backend

/-! What can be asked for on the command line. -/

namespace ConstrainedDecoding.CommandLine

/-- What a guide is made from. Files are given by their paths. -/
structure Source where
  tokenizer : String
  pattern : String
  /-- The file of the settings. -/
  config : Option String
  /-- Ends a sequence, whatever the tokenizer says. -/
  eos : Option TokenId
deriving DecidableEq

inductive Action
  /-- Build the guide and show its numbers. -/
  | compile
  /-- List the tokens that may follow others, as many as a limit says. -/
  | allowed (tokens : List TokenId) (limit : Nat)
  /-- Split a text into tokens and check that the guide allows them. -/
  | check (text : String)
  /-- Show the text of a random walk. -/
  | sample (seed maxTokens : Nat) (backend : Backend)
deriving DecidableEq

structure Command where
  source : Source
  action : Action
deriving DecidableEq

/-- The path of a file that lies beside another one. -/
def siblingPath (path name : String) : String :=
  String.ofList (path.toList.reverse.dropWhile (· ≠ '/')).reverse ++ name

namespace Source

/-- The file that tells how to use the tokenizer. -/
def tokenizerConfig (s : Source) : String := siblingPath s.tokenizer "tokenizer_config.json"

/-- All files that are read. -/
def paths (s : Source) : List String := s.config.toList ++ [s.tokenizer, s.tokenizerConfig]

end Source

end ConstrainedDecoding.CommandLine
