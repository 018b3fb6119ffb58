import ConstrainedDecoding.Proofs.Tokenizer.ByteWords
import Mathlib.Data.List.Nodup
import Mathlib.Data.List.Range
import Mathlib.Data.Set.Function
import Mathlib.Data.Set.List

/-! Byte-level words. The characters for the bytes are told apart, so that words over them and byte strings
are the same thing; a word with any other character stands for its text.
-/
namespace ConstrainedDecoding

namespace TokenEncoding

variable {b : UInt8} {bs : List UInt8} {c : Char} {cs : List Char} {t u : String}

theorem mem_shiftedBytes : b ∈ shiftedBytes ↔ isVisible b = false := by
  have hb : ∃ n < 256, n.toUInt8 = b := ⟨b.toNat, b.toNat_lt, UInt8.ofNat_toNat⟩
  simp [shiftedBytes, hb]

theorem nodup_shiftedBytes : shiftedBytes.Nodup := by
  refine ((List.nodup_range).map_on fun m hm n hn h => ?_).filter _
  have htoNat : m.toUInt8.toNat = n.toUInt8.toNat := congrArg UInt8.toNat h
  rwa [UInt8.toNat_ofNat_of_lt' (List.mem_range.mp hm),
    UInt8.toNat_ofNat_of_lt' (List.mem_range.mp hn)] at htoNat

theorem length_shiftedBytes : shiftedBytes.length = 68 := by decide +kernel

theorem toNat_byteToChar :
    (byteToChar b).toNat = if isVisible b then b.toNat else 0x100 + shiftedBytes.idxOf b := by
  have hb := b.toNat_lt
  have hidx : shiftedBytes.idxOf b ≤ 68 := length_shiftedBytes ▸ List.idxOf_le_length
  rw [byteToChar, Char.ofNat, dif_pos]
  · rfl
  · left
    split <;> omega

theorem charToByte?_byteToChar (b : UInt8) : charToByte? (byteToChar b) = some b := by
  unfold charToByte?
  rw [toNat_byteToChar]
  cases hb : isVisible b with
  | true =>
    rw [if_pos rfl, if_pos b.toNat_lt, Nat.toUInt8, UInt8.ofNat_toNat]
    simp [hb]
  | false =>
    rw [if_neg Bool.false_ne_true, if_neg (by omega), Nat.add_sub_cancel_left]
    exact List.getElem?_idxOf (mem_shiftedBytes.mpr hb)

theorem byteToChar_of_charToByte? (h : charToByte? c = some b) : byteToChar b = c := by
  rw [← Char.toNat_inj, toNat_byteToChar]
  unfold charToByte? at h
  split at h
  · obtain ⟨hcode, hb⟩ := Option.filter_eq_some_iff.mp h
    rw [if_pos hb, ← Option.some.inj hcode, Nat.toUInt8, UInt8.toNat_ofNat_of_lt' ‹_›]
  · obtain ⟨hlt, hget⟩ := List.getElem?_eq_some_iff.mp h
    have hb : isVisible b = false := mem_shiftedBytes.mp (hget ▸ List.getElem_mem hlt)
    have hidx : shiftedBytes.idxOf b = c.toNat - 0x100 := hget ▸ nodup_shiftedBytes.idxOf_getElem _ hlt
    rw [hb, if_neg Bool.false_ne_true, hidx]
    omega

theorem charToByte?_eq_some_iff : charToByte? c = some b ↔ byteToChar b = c :=
  ⟨byteToChar_of_charToByte?, fun h => h ▸ charToByte?_byteToChar b⟩

theorem mapM_charToByte?_eq_some_iff : cs.mapM charToByte? = some bs ↔ bs.map byteToChar = cs := by
  induction cs generalizing bs with
  | nil => simp [eq_comm]
  | cons c cs ih =>
    simp only [List.mapM_cons, Option.bind_eq_bind, Option.bind_eq_some_iff, Option.pure_def,
      Option.some.injEq, charToByte?_eq_some_iff, ih, List.map_eq_cons_iff]
    constructor
    · rintro ⟨b, hb, bs, hbs, rfl⟩
      exact ⟨b, bs, rfl, hb, hbs⟩
    · rintro ⟨b, bs, rfl, hb, hbs⟩
      exact ⟨b, hb, bs, hbs, rfl⟩

/-- The word that writes each byte as one character. -/
def wordOf (bs : List UInt8) : String := String.ofList (bs.map byteToChar)

def IsByteLevel (t : String) : Prop := ∀ c ∈ t.toList, ∃ b, byteToChar b = c

theorem isByteLevel_iff : IsByteLevel t ↔ ∃ bs : List UInt8, bs.map byteToChar = t.toList :=
  (Set.ext_iff.mp (Set.range_list_map byteToChar) t.toList).symm

theorem isByteLevel_wordOf (bs : List UInt8) : IsByteLevel (wordOf bs) :=
  isByteLevel_iff.mpr ⟨bs, by rw [wordOf, String.toList_ofList]⟩

theorem decode_wordOf (bs : List UInt8) : byteLevel.decode (wordOf bs) = bs := by
  have hbytes := mapM_charToByte?_eq_some_iff.mpr (rfl : bs.map byteToChar = _)
  simp only [decode, wordOf, String.toList_ofList, hbytes, Option.getD_some]

theorem wordOf_decode (h : IsByteLevel t) : wordOf (byteLevel.decode t) = t := by
  obtain ⟨bs, hbs⟩ := isByteLevel_iff.mp h
  have ht : wordOf bs = t := by rw [wordOf, hbs, String.ofList_toList]
  rw [← ht, decode_wordOf]

theorem decode_append (ht : IsByteLevel t) (hu : IsByteLevel u) :
    byteLevel.decode (t ++ u) = byteLevel.decode t ++ byteLevel.decode u := by
  have happend : t ++ u = wordOf (byteLevel.decode t ++ byteLevel.decode u) := by
    rw [wordOf, List.map_append, String.ofList_append]
    exact congrArg₂ _ (wordOf_decode ht).symm (wordOf_decode hu).symm
  rw [happend, decode_wordOf]

theorem decode_of_not_isByteLevel (h : ¬ IsByteLevel t) :
    byteLevel.decode t = t.toUTF8.data.toList := by
  have hnone : t.toList.mapM charToByte? = none := by
    rw [Option.eq_none_iff_forall_ne_some]
    intro bs hbs
    exact h (isByteLevel_iff.mpr ⟨bs, mapM_charToByte?_eq_some_iff.mp hbs⟩)
  simp only [decode, hnone, Option.getD_none, Utf8.encode_toList]

/-- Words of characters that stand for bytes are written from the bytes that they stand for, and no two of
them from the same ones. One other character is enough for a word to stand for its text. -/
theorem decode_byteLevel :
    (∀ bs, byteLevel.decode (wordOf bs) = bs) ∧
      (∀ t, IsByteLevel t → wordOf (byteLevel.decode t) = t) ∧
      Set.InjOn byteLevel.decode {t | IsByteLevel t} ∧
      (∀ t u, IsByteLevel t → IsByteLevel u →
        byteLevel.decode (t ++ u) = byteLevel.decode t ++ byteLevel.decode u) ∧
      ∀ t, ¬ IsByteLevel t → byteLevel.decode t = t.toUTF8.data.toList := by
  refine ⟨decode_wordOf, fun t => wordOf_decode, fun t ht u hu h => ?_, fun t u => decode_append,
    fun t => decode_of_not_isByteLevel⟩
  rw [← wordOf_decode ht, h, wordOf_decode hu]

/-- A space is written by another character, and one that is left in a word keeps all of it from being read
as bytes. -/
theorem decode_byteLevel_space :
    wordOf [0x20, 0x61] = "Ġa" ∧ byteLevel.decode "Ġa" = [0x20, 0x61] ∧
      IsByteLevel "Ġa" ∧ wordOf (byteLevel.decode "Ġa") = "Ġa" ∧
      ¬ IsByteLevel "Ġ a" ∧ byteLevel.decode "Ġ a" = [0xC4, 0xA0, 0x20, 0x61] := by
  have hword : wordOf [0x20, 0x61] = "Ġa" := by decide +kernel
  have hlevel : IsByteLevel "Ġa" := hword ▸ isByteLevel_wordOf _
  have hspace : ¬ IsByteLevel "Ġ a" := by
    intro h
    obtain ⟨b, hb⟩ := h ' ' (by decide)
    have hnone : charToByte? ' ' = none := by decide +kernel
    rw [charToByte?_eq_some_iff.mpr hb] at hnone
    cases hnone
  exact ⟨hword, hword ▸ decode_byteLevel.1 _, hlevel, decode_byteLevel.2.1 _ hlevel, hspace,
    decode_byteLevel.2.2.2.2 _ hspace⟩

end TokenEncoding

end ConstrainedDecoding
