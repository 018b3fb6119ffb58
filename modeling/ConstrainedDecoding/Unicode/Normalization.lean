import ConstrainedDecoding.Unicode.CaseFold
import ConstrainedDecoding.Unicode.Decomposition
import Std.Data.HashMap

/-!
Normalization forms by version 12.1 of the standard. A text is given as edits of the text before: a
character with edit `0` takes the place of the next character, one with edit `1` is put in after
that, and `-n` drops `n` further ones.
-/

namespace ConstrainedDecoding.Unicode

abbrev Edit := Char × Int

/-- The decompositions that one item describes, by the codes of the characters. -/
def decodeDecomposition (item : String) : List (Nat × List Char) :=
  match item.splitOn ":" with
  | [source, target] =>
    match source.splitOn "-" with
    | [_, _] => (decodeFold item).map fun (c, d) => (c.toNat, [d])
    | _ => [(hexValue source, (target.splitOn ".").map fun code => Char.ofNat (hexValue code))]
  | _ => []

def decompositionMap (items : String) : Std.HashMap Nat (List Char) :=
  .ofList ((words items).flatMap decodeDecomposition)

def canonicalMap : Thunk (Std.HashMap Nat (List Char)) :=
  Thunk.mk fun _ => decompositionMap canonicalDecompositions

def compatibleMap : Thunk (Std.HashMap Nat (List Char)) :=
  Thunk.mk fun _ => decompositionMap compatibleDecompositions

def combiningClassMap : Thunk (Std.HashMap Nat Nat) :=
  Thunk.mk fun _ =>
    combiningClasses.foldl (fun m (n, text) =>
      (decodeRanges text).foldl (fun m r =>
        (List.range' r.lo.toNat (r.hi.toNat - r.lo.toNat + 1)).foldl (fun m code =>
          m.insert code n) m) m) ∅

def combiningClass (c : Char) : Nat := combiningClassMap.get.getD c.toNat 0

/-- The characters that two characters are put together to, by their codes. -/
def compositionMap : Thunk (Std.HashMap (Nat × Nat) Char) :=
  Thunk.mk fun _ =>
    let excluded := decodeRanges compositionExclusions
    canonicalMap.get.fold (fun m c parts =>
      match parts with
      | [a, b] =>
        if excluded.contains (Char.ofNat c) then m
        else m.insert (a.toNat, b.toNat) (Char.ofNat c)
      | _ => m) ∅

/-- Syllables are numbered by their first consonant, vowel and last consonant, which may be none. -/
def syllableBase : Nat := 0xAC00

def isSyllable (c : Char) : Bool := syllableBase ≤ c.toNat && c.toNat < syllableBase + 11172

def decomposeSyllable (c : Char) : List Char :=
  let i := c.toNat - syllableBase
  let parts := [0x1100 + i / 588, 0x1161 + i % 588 / 28]
  (if i % 28 = 0 then parts else parts ++ [0x11A7 + i % 28]).map Char.ofNat

/-- A first consonant with a vowel, or a syllable that ends in a vowel with a last consonant. -/
def composeSyllable? (a b : Char) : Option Char :=
  let first := a.toNat - 0x1100
  let vowel := b.toNat - 0x1161
  let last := b.toNat - 0x11A7
  if 0x1100 ≤ a.toNat && first < 19 && 0x1161 ≤ b.toNat && vowel < 21 then
    some (Char.ofNat (syllableBase + (first * 21 + vowel) * 28))
  else if isSyllable a && (a.toNat - syllableBase) % 28 = 0 && 0x11A8 ≤ b.toNat && last < 28 then
    some (Char.ofNat (a.toNat + last))
  else none

def compose? (a b : Char) : Option Char :=
  (composeSyllable? a b).or compositionMap.get[(a.toNat, b.toNat)]?

/-- Take a character apart until nothing can be; `fuel` bounds the steps. -/
def decompose (compatible : Bool) : (fuel : Nat) → Char → List Char
  | 0, c => [c]
  | fuel + 1, c =>
    if c.toNat < 0x80 then [c]
    else if isSyllable c then decomposeSyllable c
    else
      let other := if compatible then compatibleMap.get[c.toNat]? else none
      match canonicalMap.get[c.toNat]?.or other with
      | some parts => parts.flatMap (decompose compatible fuel)
      | none => [c]

/-- Marks by their classes; those of one class stay in order. -/
def sortMarks (marks : List (Nat × Edit)) : List Edit :=
  (marks.mergeSort fun a b => a.1 ≤ b.1).map (·.2)

/-- Sort the marks between characters of class 0. `marks` are those since the last one, last
first. -/
def reorder (marks : List (Nat × Edit)) : List Edit → List Edit
  | [] => sortMarks marks.reverse
  | e :: es =>
    match combiningClass e.1 with
    | 0 => sortMarks marks.reverse ++ e :: reorder [] es
    | k => reorder ((k, e) :: marks) es

/-- The parts of all characters, of which the first takes the place of the character. -/
def decomposed (compatible : Bool) (text : List Char) : List Edit :=
  reorder [] (text.flatMap fun c =>
    (decompose compatible 8 c).mapIdx fun i d => (d, if i = 0 then 0 else 1))

/-- Put characters together. `starter` is the last character of class 0, `held` are the marks after
it that stay, last first, and `last` is the class of the last of them. -/
def recompose (starter : Option Edit) (held : List Edit) (last : Option Nat) :
    List Edit → List Edit
  | [] => starter.toList ++ held.reverse
  | (c, change) :: es =>
    let k := combiningClass c
    match starter with
    | none =>
      if k = 0 then recompose (some (c, change)) [] none es
      else (c, change) :: recompose none [] none es
    | some (s, before) =>
      match if last.any (k ≤ ·) then none else compose? s c with
      | some r => recompose (some (r, before + change - 1)) held last es
      | none =>
        if k = 0 then (s, before) :: held.reverse ++ recompose (some (c, change)) [] none es
        else recompose starter ((c, change) :: held) (some k) es

/-- A form: whether it takes apart what is only compatible, and whether it puts together again. -/
structure NormalForm where
  compatible : Bool
  composed : Bool
deriving DecidableEq

def NormalForm.apply (f : NormalForm) (text : List Char) : List Edit :=
  let parts := decomposed f.compatible text
  if f.composed then recompose none [] none parts else parts

end ConstrainedDecoding.Unicode
