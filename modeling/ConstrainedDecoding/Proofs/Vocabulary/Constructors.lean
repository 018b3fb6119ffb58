import ConstrainedDecoding.Proofs.Except
import ConstrainedDecoding.Proofs.Vocabulary.Index
import Mathlib.Data.List.Nodup

/-! What vocabularies are made from, and which bytes they keep with tokens that stand for no text. -/
namespace ConstrainedDecoding

inductive VocabularySource
  | entries (entries : Array VocabularyEntry)
  | decoder (size : ℕ) (eos : TokenId) (decode : TokenId → Option (List UInt8))
  | tokens (eos : TokenId) (tokens : Array (List UInt8))
  | texts (eos : TokenId) (texts : List String)
  | pairs (eos : TokenId) (pairs : List (TokenId × List UInt8))

namespace VocabularySource

def vocabulary : VocabularySource → Except Error Vocabulary
  | entries es => Vocabulary.ofEntries es
  | decoder size eos decode => Vocabulary.ofDecoder size eos decode
  | tokens eos ts => Vocabulary.ofTokens eos ts
  | texts eos ts => Vocabulary.ofTexts eos ts
  | pairs eos ps => Vocabulary.ofPairs eos ps

/-- No bytes come with tokens that stand for no text. Only entries can bring some. -/
def Silent : VocabularySource → Prop
  | entries es => ∀ e ∈ es, e.kind ≠ .text → e.bytes = []
  | _ => True

end VocabularySource

namespace Vocabulary

variable {v : Vocabulary} {t : TokenId} {e : VocabularyEntry} {eos : TokenId}

def Silent (v : Vocabulary) : Prop := ∀ t, ¬ v.IsText t → v.bytes t = []

theorem silent_iff : v.Silent ↔ ∀ e ∈ v.entries, e.kind ≠ .text → e.bytes = [] := by
  constructor
  · intro h e he hkind
    obtain ⟨t, he⟩ := Array.getElem?_of_mem he
    rw [← bytes_eq_of_entry he]
    exact h t fun htext => hkind ((isText_iff_of_entry he).mp htext)
  · intro h t htext
    cases he : v.entry? t with
    | none => rw [bytes, he]
    | some e =>
      rw [bytes_eq_of_entry he]
      exact h e (Array.mem_of_getElem? he) fun hkind => htext ((isText_iff_of_entry he).mpr hkind)

theorem ofEntries_eq_ok_iff {entries : Array VocabularyEntry} :
    ofEntries entries = .ok v ↔ v.entries = entries := by
  constructor
  · intro h
    unfold ofEntries at h
    split at h
    · cases h
    · cases h
      rfl
    · cases h
  · rintro rfl
    unfold ofEntries
    split
    · rename_i h
      simp [v.eosIds_entries] at h
    · rename_i eos h
      obtain rfl : v.eos = eos := by simpa [v.eosIds_entries] using h
      rfl
    · rename_i h
      simp [v.eosIds_entries] at h

section Decoder

variable {size : ℕ} {decode : TokenId → Option (List UInt8)}

theorem kind_entryOf_iff : (entryOf eos decode t).kind = .endOfSequence ↔ t = eos := by
  unfold entryOf
  split_ifs with h
  · exact iff_of_true rfl h
  · split <;> exact iff_of_false nofun h

theorem bytes_entryOf (h : (entryOf eos decode t).kind ≠ .text) : (entryOf eos decode t).bytes = [] := by
  unfold entryOf at h ⊢
  split_ifs at h ⊢
  · rfl
  · split at h
    · exact absurd rfl h
    · rfl

/-- One entry of a decoder's vocabulary ends sequences, if it has as many. -/
theorem eosIds_entryOf (n : ℕ) :
    eosIds ((Array.range n).map (entryOf eos decode)) = if eos < n then [eos] else [] := by
  have hmem {t : TokenId} :
      t ∈ eosIds ((Array.range n).map (entryOf eos decode)) ↔ t < n ∧ t = eos := by
    simp [mem_eosIds, Array.getElem?_range, kind_entryOf_iff]
  split_ifs with h
  · have hnodup : (eosIds ((Array.range n).map (entryOf eos decode))).Nodup := List.nodup_range.filter _
    refine List.perm_singleton.mp ((List.perm_ext_iff_of_nodup hnodup (List.nodup_singleton eos)).mpr
      fun t => ?_)
    rw [hmem, List.mem_singleton]
    exact and_iff_right_of_imp (· ▸ h)
  · rw [List.eq_nil_iff_forall_not_mem]
    exact fun t ht => h ((hmem.mp ht).2 ▸ (hmem.mp ht).1)

theorem silent_of_ofDecoder (h : ofDecoder size eos decode = .ok v) : v.Silent := by
  unfold ofDecoder at h
  split_ifs at h
  rw [silent_iff, ofEntries_eq_ok_iff.mp h]
  intro e he hkind
  obtain ⟨id, -, rfl⟩ := Array.mem_map.mp he
  exact bytes_entryOf hkind

/-- The token that is to end sequences does, and it is one of them. -/
theorem eos_of_ofDecoder (h : ofDecoder size eos decode = .ok v) :
    v.eos = eos ∧ eos < size % idCount := by
  unfold ofDecoder at h
  split_ifs at h
  have heos := v.eosIds_entries
  rw [ofEntries_eq_ok_iff.mp h, eosIds_entryOf] at heos
  split_ifs at heos with hlt
  exact ⟨(List.singleton_inj.mp heos).symm, hlt⟩

/-- Sizes are cut to words, so that nothing is left of a vocabulary that uses every token id. -/
theorem exists_ofDecoder_iff : (∃ v, ofDecoder size eos decode = .ok v) ↔ eos < size % idCount := by
  refine ⟨fun ⟨v, h⟩ => (eos_of_ofDecoder h).2, fun hlt => ?_⟩
  have hsize : ¬ size ≤ eos := not_le.mpr (hlt.trans_le (Nat.mod_le _ _))
  rw [ofDecoder, if_neg hsize]
  exact ⟨⟨_, eos, (eosIds_entryOf _).trans (if_pos hlt)⟩, ofEntries_eq_ok_iff.mpr rfl⟩

end Decoder

theorem silent_of_ofTokens {tokens : Array (List UInt8)} (h : ofTokens eos tokens = .ok v) :
    v.Silent := silent_of_ofDecoder h

theorem silent_of_ofPairs {pairs : List (TokenId × List UInt8)} (h : ofPairs eos pairs = .ok v) :
    v.Silent := by
  obtain ⟨found, -, h⟩ := bind_eq_ok_iff.mp h
  split at h
  · cases h
  · exact silent_of_ofTokens h

end Vocabulary

/-- What a vocabulary keeps with tokens that stand for no text is what it was given. -/
theorem VocabularySource.silent_iff {source : VocabularySource} {v : Vocabulary}
    (h : source.vocabulary = .ok v) : v.Silent ↔ source.Silent := by
  cases source with
  | entries es => rw [Vocabulary.silent_iff, Vocabulary.ofEntries_eq_ok_iff.mp h, Silent]
  | decoder size eos decode => exact iff_of_true (Vocabulary.silent_of_ofDecoder h) trivial
  | tokens eos ts => exact iff_of_true (Vocabulary.silent_of_ofTokens h) trivial
  | texts eos ts => exact iff_of_true (Vocabulary.silent_of_ofTokens h) trivial
  | pairs eos ps => exact iff_of_true (Vocabulary.silent_of_ofPairs h) trivial

end ConstrainedDecoding
