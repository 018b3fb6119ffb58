import ConstrainedDecoding.Error

/-! The kinds of model that guides can steer. -/

namespace ConstrainedDecoding

inductive Backend
  | transformers
  | transformersVision
  | llamaCpp
  | mlx
  | vllm
  | openAi
deriving DecidableEq

namespace Backend

def all : List Backend := [transformers, transformersVision, llamaCpp, mlx, vllm, openAi]

def name : Backend → String
  | transformers => "transformers"
  | transformersVision => "transformers-vision"
  | llamaCpp => "llama-cpp"
  | mlx => "mlx"
  | vllm => "vllm"
  | openAi => "openai"

/-- Whether the logits of the next token can be changed. -/
def hasLogits (b : Backend) : Bool := b ≠ openAi

def isMultimodal (b : Backend) : Bool := b = transformersVision

/-- Names are compared in lower case, with a hyphen for every underscore. -/
def normalizeName (name : String) : String :=
  name.map fun c => if c = '_' then '-' else c.toLower

def ofName (name : String) : Except Error Backend :=
  match all.find? fun b => b.name == normalizeName name with
  | some b => .ok b
  | none => .error (.unknownBackend name)

end Backend

end ConstrainedDecoding
