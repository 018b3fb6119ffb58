/-! The settings of a run. -/

namespace ConstrainedDecoding

/-- Limits on what a pattern may cost. -/
structure CompileLimits where
  /-- Bytes in the text of a pattern. -/
  patternLength : Nat := 8192
  /-- Either count of a repetition. -/
  repetition : Nat := 1000
  nfaStates : Nat := 1048576
  dfaStates : Nat := 100000
deriving DecidableEq

structure IndexOptions where
  /-- Whether groups of states may be indexed at the same time. The tables do not depend on it. -/
  parallel : Bool := true
  /-- Whether tokens without text are never allowed, rather than allowed everywhere. -/
  skipEmptyTokens : Bool := false
deriving DecidableEq

structure CacheOptions where
  /-- How many guides are kept; all of them if there is no number. -/
  capacity : Option Nat := none
deriving DecidableEq

structure Settings where
  compile : CompileLimits := {}
  index : IndexOptions := {}
  cache : CacheOptions := {}
deriving DecidableEq

end ConstrainedDecoding
