import ConstrainedDecoding.Guide.Basic

/-! How far one sequence has come through a guide. -/

namespace ConstrainedDecoding

structure Cursor where
  state : StateId
  /-- Whether the token that ends the sequence has been chosen. -/
  finished : Bool
deriving DecidableEq

namespace Cursor

/-- The cursor of a sequence without tokens. -/
def start (g : Guide) : Cursor := { state := g.initial, finished := false }

/-- The cursor after one more token. -/
def advance (g : Guide) (c : Cursor) (token : TokenId) : Except Error Cursor := do
  let state ← g.advance c.state token
  return { state, finished := c.finished || token == g.eos }

/-- The cursor after a token that may be missing. -/
def advance? (g : Guide) (c : Cursor) : Option TokenId → Except Error Cursor
  | none => .ok c
  | some token => c.advance g token

/-- Whether the sequence may end now. -/
def canTerminate (g : Guide) (c : Cursor) : Bool := g.isFinal c.state

def allowedTokens (g : Guide) (c : Cursor) : List TokenId := g.allowedTokens c.state

def maskLogits {α : Type} (g : Guide) (masked : α) (c : Cursor) (logits : List α) : List α :=
  g.maskLogits masked c.state logits

end Cursor

end ConstrainedDecoding
