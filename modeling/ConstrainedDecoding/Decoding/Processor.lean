import ConstrainedDecoding.Decoding.Cursor

/-!
Masking the logits of many sequences that follow one guide. Each call brings the token that was
chosen for a sequence in the last step, none in its first one, and the logits of its next token.
-/

namespace ConstrainedDecoding

structure Processor where
  guide : Guide
  sequences : Std.HashMap Nat Cursor

namespace Processor

/-- No sequence is known yet. -/
def ofGuide (g : Guide) : Processor := { guide := g, sequences := ∅ }

def sequence? (p : Processor) (id : Nat) : Option Cursor := p.sequences[id]?

def activeCount (p : Processor) : Nat := p.sequences.size

def isFinished (p : Processor) (id : Nat) : Bool := (p.sequence? id).any (·.finished)

/-- The cursor of a sequence, which is at the start if the sequence is not known. -/
def cursor (p : Processor) (id : Nat) : Cursor := (p.sequence? id).getD (.start p.guide)

def set (p : Processor) (id : Nat) (c : Cursor) : Processor :=
  { p with sequences := p.sequences.insert id c }

/-- Forget a sequence. Its last cursor is given back. -/
def finish (p : Processor) (id : Nat) : Option Cursor × Processor :=
  (p.sequence? id, { p with sequences := p.sequences.erase id })

/-- What a call leaves, whether or not it went well. -/
structure Outcome (α : Type) where
  result : Except Error Unit
  logits : List α
  after : Processor

/-- Advance a sequence and mask its logits. A refused token leaves the cursor and the logits as they
are, but the sequence is known from then on. -/
def process {α : Type} (masked : α) (p : Processor) (id : Nat) (token : Option TokenId)
    (logits : List α) : Outcome α :=
  match (p.cursor id).advance? p.guide token with
  | .error e => { result := .error e, logits, after := p.set id (p.cursor id) }
  | .ok c => {
      result := .ok (), logits := c.maskLogits p.guide masked logits, after := p.set id c }

/-- The sequences of a batch, with the tokens chosen for them. -/
abbrev Batch := List (Nat × Option TokenId)

/-- Check that no sequence comes twice and that every token is allowed, row by row. -/
def checkBatch (p : Processor) (seen : List Nat) : Batch → Except Error Unit
  | [] => .ok ()
  | (id, token) :: rest => do
    if seen.contains id then .error (.repeatedSequence id)
    let _ ← (p.cursor id).advance? p.guide token
    checkBatch p (id :: seen) rest

/-- Process the rows of a batch one after the other, up to the first that fails. Each takes `width` of
the logits. -/
def processRows {α : Type} (masked : α) (width : Nat) (p : Processor) :
    Batch → List α → Outcome α
  | [], logits => { result := .ok (), logits, after := p }
  | (id, token) :: rest, logits =>
    let row := p.process masked id token (logits.take width)
    match row.result with
    | .error e => {
        result := .error e, logits := row.logits ++ logits.drop width, after := row.after }
    | .ok () =>
      let others := processRows masked width row.after rest (logits.drop width)
      { others with logits := row.logits ++ others.logits }

/-- Advance the sequences of a batch and mask their logits, which lie row after row in one list.
Everything is checked before any sequence moves. -/
def processBatch {α : Type} (masked : α) (p : Processor) (batch : Batch) (logits : List α) :
    Outcome α :=
  if batch.isEmpty then { result := .ok (), logits, after := p }
  else if logits.isEmpty || logits.length % batch.length != 0 then
    { result := .error (.unevenLogits logits.length batch.length), logits, after := p }
  else
    match p.checkBatch [] batch with
    | .error e => { result := .error e, logits, after := p }
    | .ok () => p.processRows masked (logits.length / batch.length) batch logits

end Processor

end ConstrainedDecoding
