import ConstrainedDecoding.CommandLine.Arguments

/-! How the program is used. -/

namespace ConstrainedDecoding.CommandLine

namespace Verb

def summary : Verb → String
  | compile => "Build the guide and print its numbers"
  | allowed => "List the tokens that are allowed after others"
  | check => "Split a text into tokens and check that the guide allows them"
  | sample => "Print the text of a random walk through the guide"

/-- What stands after the options. -/
def operand : Verb → String
  | check => " <TEXT>"
  | _ => ""

end Verb

namespace Usage

/-- What an option is for. -/
def meaning : String → String
  | "tokenizer" => "File of the tokenizer"
  | "pattern" => "Regular expression that the text must match"
  | "config" => "File of the settings, in JSON"
  | "eos-token-id" => "Token that ends a sequence, whatever the tokenizer says"
  | "prefix" => "Tokens that have been chosen, separated by commas"
  | "limit" => "How many tokens to list [default: 50]"
  | "seed" => "Seed of the random scores [default: 0]"
  | "max-tokens" => "How many tokens the walk takes at most [default: 64]"
  | "backend" => "Kind of the model [default: transformers]"
  | _ => ""

/-- A word and what it means, the latter in a column of its own. -/
def entry (word meaning : String) : String :=
  "  " ++ String.ofList (word.toList.rightpad 18 ' ') ++ meaning

def optionEntry (lead option : String) : String := entry (lead ++ option) (meaning option)

def verbLines (v : Verb) : List String :=
  entry (v.name ++ v.operand) v.summary :: v.options.map (optionEntry "  --")

def lines : List String :=
  ["Decoding that is constrained by regular expressions", "",
    "Usage: <COMMAND> --tokenizer <FILE> --pattern <PATTERN> [OPTIONS]", "", "Options:"] ++
    Verb.sourceOptions.map (optionEntry "--") ++ ["", "Commands:"] ++ Verb.all.flatMap verbLines

end Usage

end ConstrainedDecoding.CommandLine
