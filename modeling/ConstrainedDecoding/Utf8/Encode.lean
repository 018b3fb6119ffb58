/-! Encoding characters in UTF-8. -/

namespace ConstrainedDecoding.Utf8

def encode (cs : List Char) : List UInt8 := cs.flatMap String.utf8EncodeChar

end ConstrainedDecoding.Utf8
