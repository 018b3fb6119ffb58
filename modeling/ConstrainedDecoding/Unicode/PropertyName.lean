import ConstrainedDecoding.Unicode.Age
import ConstrainedDecoding.Unicode.Derived
import ConstrainedDecoding.Unicode.ScriptExtension
import ConstrainedDecoding.Unicode.Segmentation
import ConstrainedDecoding.Unicode.WhiteSpace

/-!
Looking up properties by name. Names match loosely: case, blanks, hyphens, underscores and a leading
`is` do not count.
-/

namespace ConstrainedDecoding.Unicode

/-- The form in which names are compared. -/
def normalizeName (name : String) : String :=
  let cs := name.toList.filter fun c => c.toNat < 128
  let (isPrefixed, rest) :=
    match name.toList with
    | i :: s :: _ =>
      if (i = 'i' || i = 'I') && (s = 's' || s = 'S') then (true, cs.drop 2) else (false, cs)
    | _ => (false, cs)
  let kept := (rest.filter fun c => c ≠ ' ' && c ≠ '_' && c ≠ '-').map Char.toLower
  -- the only name that starts with the two letters itself
  if isPrefixed && kept = ['c'] then "isc" else .ofList kept

/-- A property whose values are names. -/
inductive ValuedProperty
  | generalCategory
  | script
  | scriptExtensions
  | age
  | graphemeBreak
  | sentenceBreak
  | wordBreak

/-- Normalized names of properties about which nothing is known here. -/
def otherProperties : List String :=
  words
    "cjkaccountingnumeric kaccountingnumeric cjkothernumeric kothernumeric cjkprimarynumeric
    kprimarynumeric nv numericvalue bmg bidimirroringglyph bpb bidipairedbracket cf
    casefolding cjkcompatibilityvariant kcompatibilityvariant dm decompositionmapping equideo
    equivalentunifiedideograph fcnfkc fcnfkcclosure lc lowercasemapping nfkccf nfkccasefold
    nfkcscf nfkcsimplecasefold scf simplecasefolding sfc slc simplelowercasemapping stc
    simpletitlecasemapping suc simpleuppercasemapping tc titlecasemapping uc uppercasemapping
    cjkiicore kiicore cjkirggsource kirggsource cjkirghsource kirghsource cjkirgjsource
    kirgjsource cjkirgkpsource kirgkpsource cjkirgksource kirgksource cjkirgmsource
    kirgmsource cjkirgssource kirgssource cjkirgtsource kirgtsource cjkirguksource
    kirguksource cjkirgusource kirgusource cjkirgvsource kirgvsource cjkrsunicode krsunicode
    unicoderadicalstroke urs isc ocomment jsn jamoshortname kehcat kehdesc kehhg kehifao
    kehjsesh na name na1 unicode1name namealias blk block bc bidiclass bpt
    bidipairedbrackettype ccc canonicalcombiningclass dt decompositiontype ea eastasianwidth
    hst hangulsyllabletype incb indicconjunctbreak inpc indicpositionalcategory insc
    indicsyllabiccategory jg joininggroup jt joiningtype lb linebreak nfcqc nfcquickcheck
    nfdqc nfdquickcheck nfkcqc nfkcquickcheck nfkdqc nfkdquickcheck nt numerictype vo
    verticalorientation ce compositionexclusion compex fullcompositionexclusion cwkcf
    changeswhennfkccasefolded kehcore kehnomirror kehnorotate xonfc expandsonnfc xonfd
    expandsonnfd xonfkc expandsonnfkc xonfkd expandsonnfkd"

inductive Property
  | binary (set : IntervalSet Char)
  | valued (p : ValuedProperty)
  | other

/-- The property with a normalized name. -/
def property? (name : String) : Option Property :=
  match name with
  | "gc" | "generalcategory" => some (.valued .generalCategory)
  | "sc" | "script" => some (.valued .script)
  | "scx" | "scriptextensions" => some (.valued .scriptExtensions)
  | "age" => some (.valued .age)
  | "gcb" | "graphemeclusterbreak" => some (.valued .graphemeBreak)
  | "sb" | "sentencebreak" => some (.valued .sentenceBreak)
  | "wb" | "wordbreak" => some (.valued .wordBreak)
  | "space" | "wspace" | "whitespace" => some (.binary whiteSpace)
  | _ =>
    match (derived? name).or (listedProperties.find? name) with
    | some set => some (.binary set)
    | none => if otherProperties.contains name then some .other else none

/-- A category value, where `any`, `ascii` and `assigned` count as categories. -/
def categoryValue? : String → Option (IntervalSet Char)
  | "any" => some [⟨'\x00', Char.ofNat 0x10FFFF⟩]
  | "ascii" => some [⟨'\x00', '\x7F'⟩]
  | "assigned" => (category? "cn").map IntervalSet.compl
  | name => category? name

/-- Values that are names of their property but have no characters. -/
def isEmptyCategory (name : String) : Bool := name = "cs" || name = "surrogate"

def isEmptyScript (name : String) : Bool :=
  ["zzzz", "unknown", "hrkt", "katakanaorhiragana"].contains name

def ValuedProperty.value? (p : ValuedProperty) (value : String) : Option (IntervalSet Char) :=
  match p with
  | generalCategory => categoryValue? value
  | script => scripts.find? value
  | scriptExtensions => scriptExtension? value
  | age => age? value
  | graphemeBreak => graphemeBreak? value
  | sentenceBreak => sentenceBreak? value
  | wordBreak => wordBreak? value

inductive LookupError
  | propertyNotFound
  | valueNotFound

/-- The characters with a property that is named by itself: a binary property, a category or a
script. Three abbreviations name both a category and a property, and the category wins. -/
def lookup (name : String) : Except LookupError (IntervalSet Char) :=
  let name := normalizeName name
  let property := if ["cf", "sc", "lc"].contains name then none else property? name
  match property with
  | some (.binary set) => .ok set
  | some _ => .error .propertyNotFound
  | none =>
    match (categoryValue? name).or (scripts.find? name) with
    | some set => .ok set
    | none =>
      if isEmptyCategory name || isEmptyScript name then .error .valueNotFound
      else .error .propertyNotFound

/-- The characters for which a property has a value. -/
def lookupValue (name value : String) : Except LookupError (IntervalSet Char) :=
  match property? (normalizeName name) with
  | none => .error .propertyNotFound
  | some (.valued p) =>
    match p.value? (normalizeName value) with
    | some set => .ok set
    | none => .error .valueNotFound
  | some _ => .error .valueNotFound

end ConstrainedDecoding.Unicode
