import ConstrainedDecoding.Text.Numeral
import ConstrainedDecoding.Tokenizer.Expression.Basic
import ConstrainedDecoding.Tokenizer.Expression.Property

/-! Reading expressions. An expression that is malformed is missing. -/

namespace ConstrainedDecoding.Tokenizer.Expression

/-- The ways of matching that are switched on. -/
structure Modes where
  ignoreCase : Bool := false
  /-- The dot matches newlines. -/
  dotAll : Bool := false
  /-- White space and comments have no meaning. -/
  extended : Bool := false
  asciiWord : Bool := false
  asciiDigit : Bool := false
  asciiSpace : Bool := false

namespace Modes

def switch (m : Modes) (on : Bool) : Char → Option Modes
  | 'i' => some { m with ignoreCase := on }
  | 'm' => some { m with dotAll := on }
  | 'x' => some { m with extended := on }
  | 'W' => some { m with asciiWord := on }
  | 'D' => some { m with asciiDigit := on }
  | 'S' => some { m with asciiSpace := on }
  | 'P' => some { m with asciiWord := on, asciiDigit := on, asciiSpace := on }
  | _ => none

def limit (ascii : Bool) (set : IntervalSet Char) : IntervalSet Char :=
  if ascii then set.inter [⟨'\x00', '\x7F'⟩] else set

def word (m : Modes) : IntervalSet Char := limit m.asciiWord wordSet.get

/-- The set of an escape such as `\d`. -/
def class? (m : Modes) : Char → Option (IntervalSet Char)
  | 'w' => some m.word
  | 'W' => some m.word.compl
  | 'd' => some (limit m.asciiDigit digits)
  | 'D' => some (IntervalSet.compl (limit m.asciiDigit digits))
  | 's' => some (limit m.asciiSpace Unicode.whiteSpace)
  | 'S' => some (IntervalSet.compl (limit m.asciiSpace Unicode.whiteSpace))
  | 'h' => some hexDigits
  | 'H' => some (IntervalSet.compl hexDigits)
  | _ => none

def fold (m : Modes) (set : IntervalSet Char) : IntervalSet Char :=
  if m.ignoreCase then Unicode.foldClosure set else set

end Modes

/-- What is left of an expression, and what is known of its groups. -/
structure Scan where
  rest : List Char
  groups : Nat := 0
  names : List (List Char × Nat) := []
  /-- The numbers that are referred to. -/
  references : List Nat := []

abbrev Reading := StateT Scan Option

def rest : Reading (List Char) := do return (← get).rest

def leave (s : List Char) : Reading Unit := modify fun scan => { scan with rest := s }

def pop : Reading Char := do
  match ← rest with
  | [] => failure
  | c :: s => leave s; return c

/-- Take a text if it comes next. -/
def eat (text : List Char) : Reading Bool := do
  let s ← rest
  if text.isPrefixOf s then leave (s.drop text.length); return true
  else return false

/-- Take the digits that come next, but no more than `limit`. -/
def popDigits (base limit : Nat) : Reading (List Char) := do
  let s ← rest
  let ds := (s.takeWhile fun c => (Numeral.digit? base c).isSome).take limit
  leave (s.drop ds.length)
  return ds

def valueOf (base : Nat) (digits : List Char) : Nat := (Numeral.ofDigits? base 0 digits).getD 0

/-! ### What has no meaning -/

inductive Comment
  | line
  | group
deriving DecidableEq

/-- Drop comments, and with `extended` white space. -/
def skip (extended : Bool) (comment : Option Comment) : List Char → Option (List Char)
  | [] => if comment = some .group then none else some []
  | '\\' :: c :: s =>
    match comment with
    | none => some ('\\' :: c :: s)
    | some .group => skip extended comment s
    | some .line => skip extended (if c = '\n' then none else comment) s
  | '(' :: '?' :: '#' :: s => skip extended (some (comment.getD .group)) s
  | c :: s =>
    match comment with
    | some .group => skip extended (if c = ')' then none else comment) s
    | some .line => skip extended (if c = '\n' then none else comment) s
    | none =>
      if extended && [' ', '\t', '\n', '\r', '\x0c'].contains c then skip extended none s
      else if extended && c = '#' then skip extended (some .line) s
      else some (c :: s)

/-! ### Repetition -/

inductive Greed
  | greedy
  | lazy
  /-- What has been taken is not given back. -/
  | possessive
deriving DecidableEq

structure Quantifier where
  least : Nat
  most : Option Nat
  greed : Greed

def Quantifier.apply (q : Quantifier) (e : Expression) : Expression :=
  let r := repeated e q.least q.most (q.greed = .lazy)
  if q.greed = .possessive then atomic r else r

def maxCount : Nat := 100000

/-- The number at the front of a text, if there is one. Missing if it is too large. -/
def count? (s : List Char) : Option (Option Nat × List Char) :=
  let ds := s.takeWhile Char.isDigit
  if ds.isEmpty then some (none, s)
  else if valueOf 10 ds ≤ maxCount then some (some (valueOf 10 ds), s.drop ds.length)
  else none

/-- The sign after a quantifier that says how greedy it is. -/
def greed (possessive : Bool) : List Char → Greed × List Char
  | '?' :: s => (.lazy, s)
  | '+' :: s => if possessive then (.possessive, s) else (.greedy, '+' :: s)
  | s => (.greedy, s)

/-- Counts up to a brace, given the text after the opening one. The inner value is missing if the
brace stands for itself, the outer one if the counts are malformed. Counts in descending order make
a quantifier possessive, and a single count is always greedy. -/
def counted? (s : List Char) : Option (Option (Quantifier × List Char)) := do
  let (low, s) ← count? s
  match low, s with
  | some n, '}' :: s => return some (⟨n, some n, .greedy⟩, s)
  | low, ',' :: s =>
    let (high, s) ← count? s
    match low, high, s with
    | none, none, _ => return none
    | low, some high, '}' :: s =>
      let low := low.getD 0
      if high < low then return some (⟨high, some low, .possessive⟩, s)
      let (g, s) := greed false s
      return some (⟨low, some high, g⟩, s)
    | some low, none, '}' :: s =>
      let (g, s) := greed false s
      return some (⟨low, none, g⟩, s)
    | _, _, _ => return none
  | _, _ => return none

/-- A quantifier, if one comes next. -/
def quantifier : Reading (Option Quantifier) := do
  let simple (least : Nat) (most : Option Nat) (s : List Char) : Reading (Option Quantifier) := do
    let (g, s) := greed true s
    leave s
    return some ⟨least, most, g⟩
  match ← rest with
  | '*' :: s => simple 0 none s
  | '+' :: s => simple 1 none s
  | '?' :: s => simple 0 (some 1) s
  | '{' :: s =>
    match ← counted? s with
    | none => return none
    | some (q, s) => leave s; return some q
  | _ => return none

/-! ### Escapes -/

/-- A character given by its code in braces, after the opening one. -/
def braced (base : Nat) : Reading Char := do
  let ds ← popDigits base 11
  if ds.isEmpty || !(← eat ['}']) then failure
  (scalar? (valueOf base ds) : Option Char)

/-- A character that an escape stands for, given the one after the backslash. -/
def escaped (c : Char) : Reading Char := do
  match c with
  | 'n' => return '\n'
  | 't' => return '\t'
  | 'r' => return '\r'
  | 'f' => return '\x0c'
  | 'v' => return '\x0b'
  | 'a' => return '\x07'
  | 'e' => return '\x1b'
  | 'x' =>
    if ← eat ['\x7b'] then braced 16
    else ascii (valueOf 16 (← popDigits 16 2))
  | 'u' =>
    let ds ← popDigits 16 4
    if ds.length < 4 then failure
    (scalar? (valueOf 16 ds) : Option Char)
  | 'o' => if ← eat ['\x7b'] then braced 8 else return 'o'
  | 'c' => control
  | 'C' => if ← eat ['-'] then control else failure
  | 'M' => failure
  | c =>
    match Numeral.digit? 8 c with
    | some d => ascii (valueOf 8 (Nat.digitChar d :: (← popDigits 8 2)))
    | none => return c
where
  /-- Larger codes are bytes, not characters. -/
  ascii (code : Nat) : Reading Char := if code < 0x80 then return Char.ofNat code else failure
  control : Reading Char := do
    let c ← pop
    if c = '?' then return '\x7f'
    else if c = '\\' || 128 ≤ c.toNat then failure
    else return Char.ofNat (c.toNat % 32)

/-- The set of an escape, given the character after the backslash, if it stands for a set. -/
def escapedSet (m : Modes) (c : Char) : Reading (Option (IntervalSet Char)) := do
  match m.class? c with
  | some set => return some set
  | none =>
    if c ≠ 'p' && c ≠ 'P' then return none
    if !(← eat ['\x7b']) then return none
    let negated ← eat ['^']
    let s ← rest
    let name := s.takeWhile (· ≠ '}')
    leave (s.drop name.length)
    let _ ← pop
    let set ← (property? name : Option (IntervalSet Char))
    return some (if negated != (c = 'P') then set.compl else set)

/-! ### Sets in brackets -/

/-- A class such as `[:alpha:]`, given the text after its bracket. The inner value is missing if
there is none, the outer one if its name is not known. -/
def bracketClass? (s : List Char) : Option (Option (IntervalSet Char × List Char)) :=
  match s with
  | ':' :: s =>
    let negated := s.head? = some '^'
    let s := if negated then s.tail else s
    let name := s.takeWhile Char.isAlphanum
    match s.drop name.length with
    | ':' :: ']' :: rest =>
      (Expression.class? (.ofList name)).map fun set =>
        some (if negated then set.compl else set, rest)
    | _ => some none
  | _ => some none

/-- A set that is being read: what stands to the left of the last operator, and what has been read
since. -/
structure OpenSet where
  left : Option (IntervalSet Char) := none
  items : IntervalSet Char := []

namespace OpenSet

def add (o : OpenSet) (set : IntervalSet Char) : OpenSet := { o with items := o.items.union set }

def all (o : OpenSet) : IntervalSet Char := (o.left.map (·.inter o.items)).getD o.items

def operator (o : OpenSet) : OpenSet := { left := some o.all }

end OpenSet

/-- Whether a set is closed later on; a bracket after a backslash does not close it. -/
def closesLater : List Char → Bool
  | [] => false
  | '\\' :: _ :: s => closesLater s
  | c :: s => c = ']' || closesLater s

/-- One item of a set: a character or a set that an escape stands for. -/
def setItem (m : Modes) : Reading (Char ⊕ IntervalSet Char) := do
  match ← pop with
  | '\\' => do
    let c ← pop
    match ← escapedSet m c with
    | some set => return .inr set
    | none => if c = 'b' then return .inl '\x08' else return .inl (← escaped c)
  | c => return .inl c

/-- A range or a single item. A hyphen at the end of a set stands for itself. -/
def setRange (m : Modes) : Reading (IntervalSet Char) := do
  match ← setItem m with
  | .inr set => return set
  | .inl lo =>
    match ← rest with
    | '-' :: ']' :: _ | '-' :: '&' :: '&' :: _ => return [.single lo]
    | '-' :: s =>
      leave s
      match ← setItem m with
      | .inr _ => failure
      | .inl hi =>
        if hi < lo then failure
        -- a hyphen after a range stands for itself
        if ← eat ['-'] then return IntervalSet.union [⟨lo, hi⟩] [.single '-']
        return [⟨lo, hi⟩]
    | _ => return [.single lo]

/-- What is between the brackets of a set, up to the closing one. With `start` nothing has been read
yet, and a closing bracket or a hyphen is an ordinary character. -/
def setBody (m : Modes) : (fuel : Nat) → (start : Bool) → OpenSet → Reading (IntervalSet Char)
  | 0, _, _ => failure
  | fuel + 1, start, o => do
    match ← rest with
    | ']' :: s =>
      leave s
      if !start then return o.all
      else if closesLater s then setBody m fuel false (o.add [.single ']'])
      else failure
    | '&' :: '&' :: s => leave s; setBody m fuel false o.operator
    | '[' :: s =>
      match ← (bracketClass? s : Option _) with
      | some (set, s) => leave s; setBody m fuel false (o.add set)
      | none =>
        leave s
        let negated ← eat ['^']
        let set ← setBody m fuel true {}
        setBody m fuel false (o.add (if negated then set.compl else set))
    | '-' :: s =>
      if start then setBody m fuel false (o.add (← setRange m))
      else leave s; setBody m fuel false (o.add [.single '-'])
    | _ => setBody m fuel false (o.add (← setRange m))

/-- A set in brackets, after the opening one. -/
def bracketSet (m : Modes) : Reading (IntervalSet Char) := do
  let negated ← eat ['^']
  let set ← setBody m ((← rest).length + 1) true {}
  let set := m.fold set
  return if negated then set.compl else set

/-! ### Items -/

/-- One item of a sequence. -/
inductive Item
  | piece (e : Expression)
  /-- Modes for the rest of the group. -/
  | modes (m : Modes)

/-- Anchors and what looks around cannot be repeated. -/
def isRepeatable : Expression → Bool
  | anchor _ | look _ _ _ | keep => false
  | _ => true

mutual

/-- Whether something has a part with a property. -/
def hasPart (p : Expression → Bool) (e : Expression) : Bool :=
  p e ||
    match e with
    | sequence parts | choice parts => havePart p parts
    | repeated body _ _ _ | atomic body | look _ _ body | group _ body => hasPart p body
    | _ => false

def havePart (p : Expression → Bool) : List Expression → Bool
  | [] => false
  | e :: es => hasPart p e || havePart p es

end

/-- What looks back neither looks ahead nor, if it is negated, has groups. -/
def isAllowedBehind (negated : Bool) (e : Expression) : Bool :=
  !hasPart (fun
    | look behind _ _ => !behind
    | group _ _ => negated
    | _ => false) e

def any : IntervalSet Char := [⟨'\x00', Char.ofNat 0x10FFFF⟩]

def anyButNewline : IntervalSet Char := IntervalSet.compl [.single '\n']

/-- A newline in one of its forms. -/
def newline : Expression :=
  atomic (choice [
    sequence [one [.single '\r'], one [.single '\n']],
    one [⟨'\n', '\r'⟩, .single '\u0085', ⟨'\u2028', '\u2029'⟩]])

/-- A name up to a closing character. -/
def readName (close : Char) : Reading (List Char) := do
  let s ← rest
  let name := s.takeWhile (· ≠ close)
  leave (s.drop name.length)
  let _ ← pop
  let isName := name.all wordSet.get.contains && !(name.head?.any digits.contains)
  if name.isEmpty || !isName then failure
  return name

/-- Note that a group is referred to by its number. -/
def refer (m : Modes) (n : Nat) : Reading Expression := do
  modify fun scan => { scan with references := n :: scan.references }
  return reference [n] m.ignoreCase

/-- A reference up to a closing character: a name, a number, or how many groups to go back. -/
def readReference (m : Modes) (close : Char) : Reading Expression := do
  let s ← rest
  let text := s.takeWhile (· ≠ close)
  let back := text.head? = some '-'
  let digits := if back then text.tail else text
  if !digits.isEmpty && digits.all Char.isDigit then
    leave (s.drop text.length)
    let _ ← pop
    let n := valueOf 10 digits
    let groups := (← get).groups
    if n = 0 || (back && groups < n) then failure
    refer m (if back then groups + 1 - n else n)
  else
    let name ← readName close
    let numbers := ((← get).names.filter (·.1 = name)).map (·.2)
    if numbers.isEmpty then failure
    return reference numbers m.ignoreCase

/-- The item of an escape, given the character after the backslash. -/
def escapedItem (m : Modes) (c : Char) : Reading Expression := do
  match c with
  | 'A' => return anchor .textStart
  | 'z' => return anchor .textStop
  | 'Z' => return anchor .lastStop
  | 'G' => return anchor .searchStart
  | 'b' => return anchor (.boundary m.word false)
  | 'B' => return anchor (.boundary m.word true)
  | 'K' => return keep
  | 'R' => return newline
  | 'N' => return one anyButNewline
  | 'O' => return one any
  | 'X' | 'y' | 'Y' => failure
  | 'g' =>
    match (← rest).head? with
    | some '<' | some '\'' => failure
    | _ => return one (m.fold [.single 'g'])
  | 'k' =>
    if ← eat ['<'] then readReference m '>'
    else if ← eat ['\''] then readReference m '\''
    else return one (m.fold [.single 'k'])
  | _ =>
    match ← escapedSet m c with
    | some set => return one (m.fold set)
    | none =>
      if c.isDigit && c ≠ '0' then
        let s ← rest
        let n := valueOf 10 (c :: s.takeWhile Char.isDigit)
        if n ≤ 9 || n ≤ (← get).groups then
          leave (s.dropWhile Char.isDigit)
          return (← refer m n)
      return one (m.fold [.single (← escaped c)])

/-- Modes up to a colon, after which a group follows, or a parenthesis. -/
def readModes (on : Bool) (m : Modes) : List Char → Option (Modes × Bool × List Char)
  | ')' :: s => some (m, false, s)
  | ':' :: s => some (m, true, s)
  | '-' :: s => readModes false m s
  | c :: s => do readModes on (← m.switch on c) s
  | [] => none

/-- The number of a new group. -/
def newGroup (name : Option (List Char)) : Reading Nat := do
  let scan ← get
  let n := scan.groups + 1
  set { scan with groups := n, names := scan.names ++ (name.map (·, n)).toList }
  return n

/-- Take the parenthesis that closes a group. -/
def closing (e : Expression) : Reading Expression := do
  if ← eat [')'] then return e else failure

mutual

/-- Alternatives up to the end of a group. -/
def readBranches : (fuel : Nat) → Modes → Reading (List Expression)
  | 0, _ => failure
  | fuel + 1, m => do
    let branch ← readSequence fuel m
    if ← eat ['|'] then return sequence branch :: (← readBranches fuel m)
    else return [sequence branch]

def readSequence : (fuel : Nat) → Modes → Reading (List Expression)
  | 0, _ => failure
  | fuel + 1, m => do
    leave (← skip m.extended none (← rest))
    match (← rest).head? with
    | none | some '|' | some ')' => return []
    | some _ =>
      match ← readItem fuel m with
      | .modes m => return [choice (← readBranches fuel m)]
      | .piece e => do
        let e ← readQuantifiers fuel m e
        return e :: (← readSequence fuel m)

/-- The quantifiers after an item. -/
def readQuantifiers : (fuel : Nat) → Modes → Expression → Reading Expression
  | 0, _, _ => failure
  | fuel + 1, m, e => do
    leave (← skip m.extended none (← rest))
    match ← quantifier with
    | none => return e
    | some q => if isRepeatable e then readQuantifiers fuel m (q.apply e) else failure

def readItem : (fuel : Nat) → Modes → Reading Item
  | 0, _ => failure
  | fuel + 1, m => do
    if (← quantifier).isSome then failure
    match ← pop with
    | '(' => readGroup fuel m
    | '[' => return .piece (one (← bracketSet m))
    | '.' => return .piece (one (if m.dotAll then any else anyButNewline))
    | '^' => return .piece (anchor .lineStart)
    | '$' => return .piece (anchor .lineStop)
    | '\\' => return .piece (← escapedItem m (← pop))
    | c => return .piece (one (m.fold [.single c]))

/-- A group, after its opening parenthesis. -/
def readGroup : (fuel : Nat) → Modes → Reading Item
  | 0, _ => failure
  | fuel + 1, m => do
    let body : Reading Expression := do closing (choice (← readBranches fuel m))
    let named (close : Char) : Reading Item := do
      let n ← newGroup (some (← readName close))
      return .piece (group n (← body))
    let lookBehind (negated : Bool) : Reading Item := do
      let e ← body
      if isAllowedBehind negated e then return .piece (look true negated e) else failure
    if ← eat ['*'] then failure
    if ← eat ['?', ':'] then return .piece (← body)
    if ← eat ['?', '='] then return .piece (look false false (← body))
    if ← eat ['?', '!'] then return .piece (look false true (← body))
    if ← eat ['?', '>'] then return .piece (atomic (← body))
    if ← eat ['?', '<', '='] then return ← lookBehind false
    if ← eat ['?', '<', '!'] then return ← lookBehind true
    if ← eat ['?', '<'] then return ← named '>'
    if ← eat ['?', '\''] then return ← named '\''
    if ← eat ['?'] then
      let (inner, hasBody, s) ← readModes true m (← rest)
      leave s
      if hasBody then return .piece (← closing (choice (← readBranches fuel inner)))
      else return .modes inner
    let n ← newGroup none
    return .piece (group n (← body))

end

/-- The expression that a text is written for. Numbers refer to groups that are there and have no
names. -/
def ofString? (text : String) : Option Expression := do
  let s := text.toList
  let (branches, scan) ← (readBranches (4 * (s.length + 2)) {}).run { rest := s }
  let numbersHold :=
    scan.references.all (· ≤ scan.groups) && (scan.references.isEmpty || scan.names.isEmpty)
  if scan.rest.isEmpty && numbersHold then some (choice branches) else none

end ConstrainedDecoding.Tokenizer.Expression
