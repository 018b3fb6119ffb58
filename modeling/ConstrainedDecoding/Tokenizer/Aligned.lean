import ConstrainedDecoding.Unicode.Normalization

/-! Texts whose characters remember where in an earlier text they come from. -/

namespace ConstrainedDecoding.Tokenizer

/-- A character, and the position in the earlier text that it goes back to. -/
structure Glyph where
  char : Char
  origin : Nat
deriving DecidableEq

abbrev Aligned := List Glyph

namespace Aligned

/-- A text that is its own origin. -/
def ofChars (text : List Char) : Aligned := text.mapIdx fun i c => ⟨c, i⟩

def chars (a : Aligned) : List Char := a.map (·.char)

@[simp] theorem chars_ofChars (text : List Char) : (ofChars text).chars = text :=
  List.ext_getElem (by simp [ofChars, chars]) (by simp [ofChars, chars])

/-- Where a text begins; zero if it is empty. -/
def start (a : Aligned) : Nat := (a.head?.map (·.origin)).getD 0

/-- Characters that all go back to one position. -/
def placed (origin : Nat) (text : List Char) : Aligned := text.map (⟨·, origin⟩)

/-- Carry out edits. A character that is put in goes back to where the one before it was, which is
`last` for the first. -/
def edit (last : Nat) : (edits : List Unicode.Edit) → Aligned → Aligned
  | [], _ => []
  | (c, change) :: edits, old =>
    if 0 < change then ⟨c, last⟩ :: edit last edits old
    else
      let used := old.take (change.natAbs + 1)
      let origin := (used.head?.map (·.origin)).getD last
      let last := (used.getLast?.map (·.origin)).getD last
      ⟨c, origin⟩ :: edit last edits (old.drop (change.natAbs + 1))

/-- The text that edits make of a text. -/
def apply (edits : List Unicode.Edit) (old : Aligned) : Aligned := edit old.start edits old

@[simp] theorem chars_edit (last : Nat) (edits : List Unicode.Edit) (old : Aligned) :
    (edit last edits old).chars = edits.map (·.1) := by
  induction edits generalizing last old with
  | nil => rfl
  | cons e edits ih =>
    obtain ⟨c, change⟩ := e
    simp only [edit]
    split <;> simp_all [chars]

end Aligned

end ConstrainedDecoding.Tokenizer
