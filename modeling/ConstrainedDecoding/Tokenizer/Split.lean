import ConstrainedDecoding.Tokenizer.Aligned

/-! Splitting texts at what matches something. -/

namespace ConstrainedDecoding.Tokenizer

/-- Consecutive characters of a text, and whether they are a match. -/
abbrev Segment := Aligned × Bool

/-- What becomes of the matches when a text is split. -/
inductive SplitBehavior
  | removed
  | isolated
  | mergedWithPrevious
  | mergedWithNext
  | contiguous
deriving DecidableEq

namespace SplitBehavior

/-- Join each segment to the piece before it where `joins` says so of the two segments; `previous`
is whether the last segment is a match, and a segment at the start joins nothing. -/
def group (joins : Bool → Bool → Bool) (previous : Bool) (piece : Aligned) :
    List Segment → List Aligned
  | [] => [piece]
  | (text, isMatch) :: rest =>
    if joins previous isMatch then group joins isMatch (piece ++ text) rest
    else piece :: group joins isMatch text rest

/-- The pieces of a text that consists of segments. Empty ones do not count. -/
def pieces (b : SplitBehavior) (segments : List Segment) : List Aligned :=
  let grouped (joins : Bool → Bool → Bool) : List Aligned :=
    match segments with
    | [] => []
    | (text, isMatch) :: rest => group joins isMatch text rest
  let all : List Aligned :=
    match b with
    | removed => (segments.filter (!·.2)).map (·.1)
    | isolated => segments.map (·.1)
    | mergedWithPrevious => grouped fun previous isMatch => isMatch && !previous
    | mergedWithNext => grouped fun previous isMatch => previous && !isMatch
    | contiguous => grouped fun previous isMatch => previous == isMatch
  all.filter (!·.isEmpty)

end SplitBehavior

/-- Put a character that matches nothing in front of the segments after it. -/
def consUnmatched (g : Glyph) : List Segment → List Segment
  | (text, false) :: rest => (g :: text, false) :: rest
  | segments => ([g], false) :: segments

/-- Every character with a property is a match. -/
def segmentsOf (p : Char → Bool) : Aligned → List Segment
  | [] => []
  | g :: gs =>
    let rest := segmentsOf p gs
    if p g.char then ([g], true) :: rest else consUnmatched g rest

/-- The matches are spans, each from its first position up to its second one. They ascend, do not
overlap and may be empty; `position` is where the text begins. -/
def segmentsAt (position : Nat) : (spans : List (Nat × Nat)) → Aligned → List Segment
  | [], [] => []
  | [], text => [(text, false)]
  | (start, stop) :: spans, text =>
    let before := text.take (start - position)
    let rest := text.drop (start - position)
    let found := (rest.take (stop - start), true) ::
      segmentsAt stop spans (rest.drop (stop - start))
    if before.isEmpty then found else (before, false) :: found

/-- The spans of the matches of a reader that gives the length of the match at the front of a text;
a match takes at least one character. -/
def spansBy (matchLength : List Char → Nat) (position : Nat) (text : List Char) :
    List (Nat × Nat) :=
  match text with
  | [] => []
  | c :: cs =>
    match matchLength (c :: cs) with
    | 0 => spansBy matchLength (position + 1) cs
    | n + 1 => (position, position + n + 1) :: spansBy matchLength (position + n + 1) (cs.drop n)
termination_by text.length
decreasing_by
  · simp
  · simp only [List.length_cons, List.length_drop]
    omega

/-- How many characters at the front have a property. -/
def runLength (p : Char → Bool) (text : List Char) : Nat := (text.takeWhile p).length

/-- The segments of a text at the matches of a reader of lengths. -/
def segmentsBy (matchLength : List Char → Nat) (text : Aligned) : List Segment :=
  segmentsAt 0 (spansBy matchLength 0 text.chars) text

end ConstrainedDecoding.Tokenizer
