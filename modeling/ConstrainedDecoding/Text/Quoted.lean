import ConstrainedDecoding.Unicode.Current

/-! Texts in double quotes, with everything escaped that would not be seen. -/

namespace ConstrainedDecoding.Quoted

def isHidden (c : Char) : Bool :=
  if c.toNat < 0x80 then c < ' ' || c == '\x7f' else Unicode.hidden.get.contains c

def escapeCode (c : Char) : List Char :=
  ['\\', 'u', '\x7b'] ++ Nat.toDigits 16 c.toNat ++ ['\x7d']

def escape (c : Char) : List Char :=
  match c with
  | '\x00' => ['\\', '0']
  | '\t' => ['\\', 't']
  | '\r' => ['\\', 'r']
  | '\n' => ['\\', 'n']
  | '"' => ['\\', '"']
  | '\\' => ['\\', '\\']
  | c => if isHidden c then escapeCode c else [c]

/-- A text as it is shown to the user. -/
def quote (s : String) : String :=
  String.ofList ('"' :: s.toList.flatMap escape ++ ['"'])

end ConstrainedDecoding.Quoted
