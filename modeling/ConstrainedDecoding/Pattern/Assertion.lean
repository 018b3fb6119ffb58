/-! Zero-width assertions of the pattern language. -/

namespace ConstrainedDecoding.Pattern

inductive Assertion
  | start
  | stop
  | lineStart
  | lineEnd
  | lineStartCrlf
  | lineEndCrlf
  | wordAscii
  | wordAsciiNegate
  | wordUnicode
  | wordUnicodeNegate
  | wordStartAscii
  | wordEndAscii
  | wordStartUnicode
  | wordEndUnicode
  | wordStartHalfAscii
  | wordEndHalfAscii
  | wordStartHalfUnicode
  | wordEndHalfUnicode
deriving DecidableEq, Hashable

/-- The name by which a report calls an assertion. -/
def Assertion.name : Assertion → String
  | start => "Start"
  | stop => "End"
  | lineStart => "StartLF"
  | lineEnd => "EndLF"
  | lineStartCrlf => "StartCRLF"
  | lineEndCrlf => "EndCRLF"
  | wordAscii => "WordAscii"
  | wordAsciiNegate => "WordAsciiNegate"
  | wordUnicode => "WordUnicode"
  | wordUnicodeNegate => "WordUnicodeNegate"
  | wordStartAscii => "WordStartAscii"
  | wordEndAscii => "WordEndAscii"
  | wordStartUnicode => "WordStartUnicode"
  | wordEndUnicode => "WordEndUnicode"
  | wordStartHalfAscii => "WordStartHalfAscii"
  | wordEndHalfAscii => "WordEndHalfAscii"
  | wordStartHalfUnicode => "WordStartHalfUnicode"
  | wordEndHalfUnicode => "WordEndHalfUnicode"

end ConstrainedDecoding.Pattern
