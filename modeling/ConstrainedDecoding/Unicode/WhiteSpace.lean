import ConstrainedDecoding.Interval

/-! The characters with the White_Space property. -/

namespace ConstrainedDecoding.Unicode

def whiteSpace : IntervalSet Char :=
  [⟨'\t', '\r'⟩, .single ' ', .single '\u0085', .single '\u00A0', .single '\u1680',
    ⟨'\u2000', '\u200A'⟩, ⟨'\u2028', '\u2029'⟩, .single '\u202F', .single '\u205F',
    .single '\u3000']

def isWhiteSpace (c : Char) : Bool := whiteSpace.contains c

end ConstrainedDecoding.Unicode
