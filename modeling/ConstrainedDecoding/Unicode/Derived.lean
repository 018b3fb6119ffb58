import ConstrainedDecoding.Unicode.Binary
import ConstrainedDecoding.Unicode.Category
import ConstrainedDecoding.Unicode.Script

/-! Properties that are computed from categories and listed properties. -/

namespace ConstrainedDecoding.Unicode

/-- The characters of a listed property. -/
def listed (name : String) : IntervalSet Char :=
  (listedProperties.find? name).getD []

def lowercase : IntervalSet Char := (inCategories ["ll"]).union (listed "otherlowercase")

def uppercase : IntervalSet Char := (inCategories ["lu"]).union (listed "otheruppercase")

def cased : IntervalSet Char :=
  IntervalSet.ofList (lowercase ++ uppercase ++ inCategories ["lt"])

def alphabetic : Thunk (IntervalSet Char) :=
  Thunk.mk fun _ =>
    IntervalSet.ofList (lowercase ++ uppercase ++ inCategories ["lt", "lm", "lo", "nl"] ++
      listed "otheralphabetic")

/-- Letters, marks, digits, connectors and join controls. -/
def wordCharacters : Thunk (IntervalSet Char) :=
  Thunk.mk fun _ =>
    IntervalSet.ofList (alphabetic.get ++ inCategories ["m", "nd", "pc"] ++ listed "joincontrol")

def decimalDigits : IntervalSet Char := inCategories ["nd"]

def mathematical : IntervalSet Char := (inCategories ["sm"]).union (listed "othermath")

def graphemeExtend : IntervalSet Char :=
  (inCategories ["me", "mn"]).union (listed "othergraphemeextend")

def graphemeBase : IntervalSet Char :=
  IntervalSet.compl (IntervalSet.ofList (inCategories ["c", "zl", "zp"] ++ graphemeExtend))

def patternCharacters : IntervalSet Char :=
  (listed "patternsyntax").union (listed "patternwhitespace")

def idStart : IntervalSet Char :=
  IntervalSet.diff ((inCategories ["l", "nl"]).union (listed "otheridstart")) patternCharacters

def idContinue : IntervalSet Char :=
  IntervalSet.diff
    (IntervalSet.ofList (idStart ++ inCategories ["mn", "mc", "nd", "pc"] ++
      listed "otheridcontinue"))
    patternCharacters

/-- Identifier characters that lose that property under compatibility normalization. -/
def unstableIdContinue : IntervalSet Char :=
  decodeRanges "37a 309b-309c fc5e-fc63 fdfa-fdfb fe70 fe72 fe74 fe76 fe78 fe7a fe7c fe7e"

def unstableIdStart : IntervalSet Char :=
  unstableIdContinue.union (decodeRanges "e33 eb3 ff9e-ff9f")

/-- Marks, formats, modifiers and the characters that may stand inside a word. -/
def caseIgnorable : IntervalSet Char :=
  (inCategories ["mn", "me", "cf", "lm", "sk"]).union
    (decodeRanges "27 2e 3a b7 387 55f 5f4 2018-2019 2024 2027 fe13 fe52 fe55 ff07 ff0e ff1a")

/-- A computed property by its normalized name. -/
def derived? : String → Option (IntervalSet Char)
  | "alpha" | "alphabetic" => some alphabetic.get
  | "lower" | "lowercase" => some lowercase
  | "upper" | "uppercase" => some uppercase
  | "cased" => some cased
  | "ci" | "caseignorable" => some caseIgnorable
  | "math" => some mathematical
  | "grext" | "graphemeextend" => some graphemeExtend
  | "grbase" | "graphemebase" => some graphemeBase
  | "ids" | "idstart" => some idStart
  | "idc" | "idcontinue" => some idContinue
  | "xids" | "xidstart" => some (IntervalSet.diff idStart unstableIdStart)
  | "xidc" | "xidcontinue" => some (IntervalSet.diff idContinue unstableIdContinue)
  | _ => none

end ConstrainedDecoding.Unicode
