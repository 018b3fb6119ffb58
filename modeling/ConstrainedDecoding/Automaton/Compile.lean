import ConstrainedDecoding.Automaton.Subset
import ConstrainedDecoding.Pattern.Elaborate

/-! From the text of a pattern to its automata. -/

namespace ConstrainedDecoding.Automaton

/-- The expression of a pattern whose text is not too long. -/
def parsePattern (limits : CompileLimits) (text : String) : Except Error Pattern.Expr :=
  if limits.patternLength < text.utf8ByteSize then
    .error (.tooComplex .patternLength limits.patternLength)
  else
    (Pattern.Expr.ofString text).mapError .malformedPattern

def Nfa.ofPattern (limits : CompileLimits) (text : String) : Except Error Nfa := do
  Nfa.ofExpr limits (← parsePattern limits text)

/-- The automaton that accepts exactly what a pattern matches as a whole. -/
def compile (limits : CompileLimits) (text : String) : Except Error Dfa := do
  Dfa.ofNfa limits (← Nfa.ofPattern limits text)

end ConstrainedDecoding.Automaton
