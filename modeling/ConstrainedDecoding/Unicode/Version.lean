import ConstrainedDecoding.Unicode.Age
import ConstrainedDecoding.Unicode.Derived

/-! Properties by earlier versions of the standard, which had fewer characters. -/

namespace ConstrainedDecoding.Unicode

/-- The characters of a set that were assigned in a version. -/
def assignedIn (version : String) (set : IntervalSet Char) : IntervalSet Char :=
  set.inter ((age? version).getD [])

/-- Controls, formats and the ends of the private ranges, by version 8. -/
def controls8 : Thunk (IntervalSet Char) :=
  Thunk.mk fun _ =>
    (assignedIn "8.0" (inCategories ["cc", "cf"])).union
      (decodeRanges "e000 f8ff f0000 ffffd 100000 10fffd")

/-- Marks without a width of their own, by version 8. -/
def nonspacingMarks8 : Thunk (IntervalSet Char) :=
  Thunk.mk fun _ =>
    IntervalSet.diff ((assignedIn "8.0" (inCategories ["mn"])).union (decodeRanges "1734 1171e"))
      (decodeRanges "a9bd 111c9")

/-- Punctuation, by version 8. -/
def punctuation8 : Thunk (IntervalSet Char) :=
  Thunk.mk fun _ => (assignedIn "8.0" (inCategories ["p"])).union (decodeRanges "166d 111c9")

/-- Marks of all kinds, by version 12.1. -/
def marks12 : Thunk (IntervalSet Char) :=
  Thunk.mk fun _ => assignedIn "12.1" (inCategories ["m"])

/-- The scripts and their characters, by version 9. -/
def scripts9 : Thunk (List (String × IntervalSet Char)) :=
  Thunk.mk fun _ => scripts.map fun (names, text) =>
    (names.headD "", assignedIn "9.0" (decodeRanges text))

def scriptOf? (c : Char) : Option String :=
  (scripts9.get.find? (·.2.contains c)).map (·.1)

end ConstrainedDecoding.Unicode
