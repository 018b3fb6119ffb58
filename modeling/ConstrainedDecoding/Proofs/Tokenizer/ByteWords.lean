import ConstrainedDecoding.Tokenizer.Encoding
import Mathlib.Tactic.IntervalCases

/-! Words with byte fallback. A word stands for a single byte if it writes one in two hexadecimal digits,
or else for its text. The place of the first digit may also be taken by a plus sign.
-/
namespace ConstrainedDecoding

variable {a b c : Char} {d m n : ℕ} {x : UInt8} {cs : List Char} {t : String}

/-- The digit of a number below sixteen, in either case. -/
def IsHexDigit (c : Char) (d : ℕ) : Prop := d < 16 ∧ (c = d.digitChar ∨ c = d.digitChar.toUpper)

instance : Decidable (IsHexDigit c d) := inferInstanceAs (Decidable (_ ∧ _))

/-- Digits of a range are told by their codes. -/
private theorem isHexDigit_of_between {lo hi : Char} (hc : (lo ≤ c && c ≤ hi) = true)
    (hdigits : ∀ m ≤ hi.toNat, lo.toNat ≤ m → IsHexDigit (Char.ofNat m) (m - n)) :
    IsHexDigit c (c.toNat - n) := by
  have hcodes : lo.toNat ≤ c.toNat ∧ c.toNat ≤ hi.toNat := by
    simpa [Char.le_def, UInt32.le_iff_toNat_le] using hc
  have hdigit := hdigits c.toNat hcodes.2 hcodes.1
  rwa [Char.ofNat_toNat] at hdigit

theorem hexDigit?_eq_some_iff : hexDigit? c = some d ↔ IsHexDigit c d := by
  constructor
  · intro h
    unfold hexDigit? at h
    split_ifs at h with hdecimal hlower hupper <;> obtain rfl := Option.some.inj h
    · exact isHexDigit_of_between hdecimal (by decide)
    · exact isHexDigit_of_between hlower (by decide)
    · exact isHexDigit_of_between hupper (by decide)
  · rintro ⟨hd, rfl | rfl⟩ <;> interval_cases d <;> rfl

theorem IsHexDigit.utf8Size_eq (h : IsHexDigit c d) : c.utf8Size = 1 := by
  obtain ⟨hd, rfl | rfl⟩ := h <;> interval_cases d <;> rfl

theorem IsHexDigit.ne_plus (h : IsHexDigit c d) : c ≠ '+' := by
  obtain ⟨hd, rfl | rfl⟩ := h <;> interval_cases d <;> decide

namespace Numeral

theorem digit?_sixteen : digit? 16 c = some d ↔ IsHexDigit c d := by
  simp only [digit?, Option.filter_eq_some_iff, hexDigit?_eq_some_iff, decide_eq_true_eq]
  exact and_iff_left_of_imp And.left

theorem ofDigits?_cons {base : ℕ} :
    ofDigits? base m (c :: cs) = some n ↔
      ∃ d, digit? base c = some d ∧ ofDigits? base (base * m + d) cs = some n := by
  simp [ofDigits?, List.foldlM_cons, Option.bind_eq_some_iff]

theorem ofDigits?_nil {base : ℕ} : ofDigits? base m [] = some n ↔ m = n := by
  simp [ofDigits?]

theorem read?_of_ne_plus {base bound : ℕ} (ha : a ≠ '+') :
    read? base bound (a :: cs) = (ofDigits? base 0 (a :: cs)).filter (· ≤ bound) := by
  simp [read?, ha]

theorem read?_one (h : read? 16 255 [c] = some n) : IsHexDigit c n := by
  by_cases hc : c = '+'
  -- A sign alone is not a numeral.
  · simp [hc, read?] at h
  · rw [read?_of_ne_plus hc, Option.filter_eq_some_iff, ofDigits?_cons] at h
    simpa [ofDigits?_nil, digit?_sixteen] using h.1

/-- Two characters give a byte by two digits, or by one after a plus sign. -/
theorem read?_two :
    read? 16 255 [a, b] = some n ↔
      (∃ h₁ h₂, IsHexDigit a h₁ ∧ IsHexDigit b h₂ ∧ n = 16 * h₁ + h₂) ∨
        (a = '+' ∧ IsHexDigit b n) := by
  by_cases ha : a = '+'
  · subst ha
    have hplus : ∀ d, ¬ IsHexDigit '+' d := fun d h ↦ h.ne_plus rfl
    have hle : IsHexDigit b n → n ≤ 255 := fun h ↦ h.1.le.trans (by decide)
    simpa [read?, hplus, ofDigits?_cons, ofDigits?_nil, digit?_sixteen, Option.filter_eq_some_iff]
      using hle
  · rw [read?_of_ne_plus ha, Option.filter_eq_some_iff, ofDigits?_cons]
    simp only [ofDigits?_cons, ofDigits?_nil, digit?_sixteen, ha, false_and, or_false,
      decide_eq_true_eq, Nat.mul_zero, Nat.zero_add]
    constructor
    · rintro ⟨⟨h₁, ha, h₂, hb, rfl⟩, -⟩
      exact ⟨h₁, h₂, ha, hb, rfl⟩
    · rintro ⟨h₁, h₂, ha, hb, rfl⟩
      have hlt₁ : h₁ < 16 := ha.1
      have hlt₂ : h₂ < 16 := hb.1
      exact ⟨⟨h₁, ha, h₂, hb, rfl⟩, by omega⟩

end Numeral

namespace Utf8

theorem length_encode_cons : (encode (c :: cs)).length = c.utf8Size + (encode cs).length := by
  simp [encode, String.length_utf8EncodeChar]

theorem length_le_length_encode (cs : List Char) : cs.length ≤ (encode cs).length := by
  induction cs with
  | nil => exact Nat.zero_le _
  | cons c cs ih =>
    have := c.utf8Size_pos
    rw [length_encode_cons, List.length_cons]
    omega

theorem of_length_encode_eq_two (h : (encode cs).length = 2) :
    (∃ c, cs = [c] ∧ c.utf8Size = 2) ∨ ∃ a b, cs = [a, b] := by
  have hle := length_le_length_encode cs
  match cs with
  | [] => simp [encode] at h
  | [c] =>
    rw [length_encode_cons] at h
    exact .inl ⟨c, rfl, h⟩
  | [a, b] => exact .inr ⟨a, b, rfl⟩
  | a :: b :: c :: _ =>
    simp only [List.length_cons] at hle
    omega

theorem encode_toList (t : String) : encode t.toList = t.toUTF8.data.toList := by
  rw [String.toUTF8, ← String.utf8Encode_toList, List.utf8Encode, List.toList_data_toByteArray]
  rfl

end Utf8

namespace TokenEncoding

/-- What stands between the ends of a byte is two characters. -/
theorem byteOfWord?_eq_some_iff :
    byteOfWord? cs = some x ↔ ∃ a b n, cs = ['<', '0', 'x', a, b, '>'] ∧
      Numeral.read? 16 255 [a, b] = some n ∧ x = n.toUInt8 := by
  constructor
  · intro h
    unfold byteOfWord? at h
    split at h
    · simp only [Bool.and_eq_true, decide_eq_true_eq, Option.ite_none_right_eq_some,
        Option.map_eq_some_iff] at h
      obtain ⟨⟨hend, hlength⟩, n, hread, rfl⟩ := h
      obtain ⟨numeral, rfl⟩ := List.getLast?_eq_some_iff.mp hend
      rw [List.dropLast_concat] at hlength hread
      obtain ⟨c, rfl, hsize⟩ | ⟨a, b, rfl⟩ := Utf8.of_length_encode_eq_two hlength
      -- A digit takes one byte, so that one character of two bytes is none.
      · have := (Numeral.read?_one hread).utf8Size_eq
        omega
      · exact ⟨a, b, n, rfl, hread, rfl⟩
    · cases h
  · rintro ⟨a, b, n, rfl, hread, rfl⟩
    have hsizes : a.utf8Size = 1 ∧ b.utf8Size = 1 := by
      obtain ⟨_, _, ha, hb, -⟩ | ⟨rfl, hb⟩ := Numeral.read?_two.mp hread
      · exact ⟨ha.utf8Size_eq, hb.utf8Size_eq⟩
      · exact ⟨rfl, hb.utf8Size_eq⟩
    have hlength : (Utf8.encode [a, b]).length = 2 := by
      rw [Utf8.length_encode_cons, Utf8.length_encode_cons, hsizes.1, hsizes.2]
      rfl
    simp [byteOfWord?, hlength, hread]

/-- Two hexadecimal digits between the ends of a byte. -/
def ByteWord (t : String) (x : UInt8) : Prop :=
  ∃ a b h₁ h₂, t.toList = ['<', '0', 'x', a, b, '>'] ∧ IsHexDigit a h₁ ∧ IsHexDigit b h₂ ∧
    x.toNat = 16 * h₁ + h₂

/-- One hexadecimal digit after a plus sign, between the ends of a byte. -/
def SignedByteWord (t : String) (x : UInt8) : Prop :=
  ∃ b, t.toList = ['<', '0', 'x', '+', b, '>'] ∧ IsHexDigit b x.toNat

def textBytes (t : String) : List UInt8 :=
  (t.map fun c ↦ if c = lowerBlock then ' ' else c).toUTF8.data.toList

def Spells (t : String) (bs : List UInt8) : Prop :=
  (∃ x, ByteWord t x ∧ bs = [x]) ∨ ((∀ x, ¬ ByteWord t x) ∧ bs = textBytes t)

private theorem eq_toUInt8_iff (hn : n < 256) : x = n.toUInt8 ↔ x.toNat = n := by
  rw [← UInt8.toNat_inj, Nat.toUInt8, UInt8.toNat_ofNat_of_lt' hn]

theorem byteOfWord?_toList :
    byteOfWord? t.toList = some x ↔ ByteWord t x ∨ SignedByteWord t x := by
  rw [byteOfWord?_eq_some_iff]
  constructor
  · rintro ⟨a, b, n, ht, hread, hx⟩
    obtain ⟨h₁, h₂, ha, hb, rfl⟩ | ⟨rfl, hb⟩ := Numeral.read?_two.mp hread
    · have hlt₁ : h₁ < 16 := ha.1
      have hlt₂ : h₂ < 16 := hb.1
      exact .inl ⟨a, b, h₁, h₂, ht, ha, hb, (eq_toUInt8_iff (by omega)).mp hx⟩
    · have hlt : n < 16 := hb.1
      rw [← (eq_toUInt8_iff (by omega)).mp hx] at hb
      exact .inr ⟨b, ht, hb⟩
  · rintro (⟨a, b, h₁, h₂, ht, ha, hb, hx⟩ | ⟨b, ht, hb⟩)
    · exact ⟨a, b, x.toNat, ht, Numeral.read?_two.mpr (.inl ⟨h₁, h₂, ha, hb, hx⟩), by simp⟩
    · exact ⟨'+', b, x.toNat, ht, Numeral.read?_two.mpr (.inr ⟨rfl, hb⟩), by simp⟩

theorem decode_of_byte (h : ByteWord t x ∨ SignedByteWord t x) :
    (sentencePiece true).decode t = [x] := by
  simp only [decode, byteOfWord?_toList.mpr h]

theorem encode_restoreSpaces : Utf8.encode (restoreSpaces t.toList) = textBytes t := by
  rw [textBytes, ← Utf8.encode_toList, String.toList_map]
  rfl

theorem decode_of_text (hbyte : ∀ x, ¬ ByteWord t x) (hsigned : ∀ x, ¬ SignedByteWord t x) :
    (sentencePiece true).decode t = textBytes t := by
  have hnone : byteOfWord? t.toList = none := by
    rw [Option.eq_none_iff_forall_ne_some]
    intro x hx
    exact (byteOfWord?_toList.mp hx).elim (hbyte x) (hsigned x)
  simp only [decode, hnone]
  exact encode_restoreSpaces

theorem SignedByteWord.not_byteWord (h : SignedByteWord t x) (y : UInt8) : ¬ ByteWord t y := by
  rintro ⟨a, b, h₁, h₂, ht, ha, -⟩
  obtain ⟨c, hc, -⟩ := h
  have hab : '+' = a ∧ c = b := by simpa [hc] using ht
  exact ha.ne_plus hab.1.symm

/-- The text of six characters is no single byte. -/
theorem SignedByteWord.not_spells (h : SignedByteWord t x) :
    ¬ Spells t ((sentencePiece true).decode t) := by
  rw [decode_of_byte (.inr h)]
  rintro (⟨y, hy, -⟩ | ⟨-, htext⟩)
  · exact h.not_byteWord y hy
  · obtain ⟨b, ht, -⟩ := h
    have hlength := Utf8.length_le_length_encode (restoreSpaces t.toList)
    rw [encode_restoreSpaces, ← htext, ht] at hlength
    simp [restoreSpaces] at hlength

/-- With byte fallback words stand for what they spell, unless a plus sign takes the place of a digit. -/
theorem decode_sentencePiece (t : String) :
    (sentencePiece false).decode t = textBytes t ∧
      (∀ x, SignedByteWord t x → (sentencePiece true).decode t = [x]) ∧
      (Spells t ((sentencePiece true).decode t) ↔ ∀ x, ¬ SignedByteWord t x) := by
  refine ⟨encode_restoreSpaces, fun x hx ↦ decode_of_byte (.inr hx),
    fun h x hx ↦ hx.not_spells h, fun hsigned ↦ ?_⟩
  by_cases hbyte : ∃ x, ByteWord t x
  · obtain ⟨x, hx⟩ := hbyte
    exact .inl ⟨x, hx, decode_of_byte (.inl hx)⟩
  · have hbyte := not_exists.mp hbyte
    exact .inr ⟨hbyte, decode_of_text hbyte hsigned⟩

theorem signedByteWord_plus : SignedByteWord "<0x+A>" 10 := ⟨'A', by decide, by decide⟩

theorem decode_sentencePiece_plus :
    (sentencePiece true).decode "<0x+A>" = [10] ∧
      Spells "<0x0A>" ((sentencePiece true).decode "<0x0A>") := by
  refine ⟨(decode_sentencePiece _).2.1 10 signedByteWord_plus,
    (decode_sentencePiece _).2.2.mpr fun x h ↦ ?_⟩
  obtain ⟨b, ht, -⟩ := h
  simp at ht

theorem not_spells_plus : ¬ Spells "<0x+A>" ((sentencePiece true).decode "<0x+A>") :=
  signedByteWord_plus.not_spells

end TokenEncoding

end ConstrainedDecoding
