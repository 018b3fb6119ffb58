import ConstrainedDecoding.Settings
import ConstrainedDecoding.Vocabulary.Index
import ConstrainedDecoding.Proofs.Vocabulary.Trie

/-! Which tokens of a vocabulary stand for text, and how they are found in its index. -/
namespace ConstrainedDecoding

variable {v : Vocabulary} {t : TokenId} {bytes : List UInt8}

def Vocabulary.IsText (v : Vocabulary) (t : TokenId) : Prop :=
  ∃ bytes, v.entry? t = some { kind := .text, bytes }

def Vocabulary.IsEmptyText (v : Vocabulary) (t : TokenId) : Prop := v.IsText t ∧ v.bytes t = []

/-- A token stands for text and may be chosen; without bytes it may only if such tokens are kept. -/
def IndexOptions.Uses (options : IndexOptions) (v : Vocabulary) (t : TokenId) : Prop :=
  v.IsText t ∧ (options.skipEmptyTokens → v.bytes t ≠ [])

namespace Vocabulary

theorem bytes_eq_of_entry {e : VocabularyEntry} (h : v.entry? t = some e) : v.bytes t = e.bytes := by
  rw [bytes, h]

theorem isText_iff : v.IsText t ↔ v.entry? t = some { kind := .text, bytes := v.bytes t } := by
  constructor
  · rintro ⟨bytes, h⟩
    rw [bytes_eq_of_entry h, h]
  · exact fun h => ⟨_, h⟩

theorem isText_iff_of_entry {e : VocabularyEntry} (h : v.entry? t = some e) :
    v.IsText t ↔ e.kind = .text := by
  constructor
  · rintro ⟨bytes, htext⟩
    rw [h] at htext
    rw [Option.some.inj htext]
  · intro hkind
    exact ⟨e.bytes, by rw [h, ← hkind]⟩

theorem decode_filter {keep : TokenId → Bool} {ts : List TokenId}
    (h : ∀ t ∈ ts, ¬ keep t → v.bytes t = []) : v.decode (ts.filter keep) = v.decode ts := by
  induction ts with
  | nil => rfl
  | cons t ts ih =>
    obtain ⟨ht, hts⟩ := List.forall_mem_cons.mp h
    have hcons (ts : List TokenId) : v.decode (t :: ts) = v.bytes t ++ v.decode ts := rfl
    by_cases hkeep : keep t
    · rw [List.filter_cons_of_pos hkeep, hcons, hcons, ih hts]
    · rw [List.filter_cons_of_neg hkeep, hcons, ht hkeep, ih hts, List.nil_append]

theorem mem_eosIds {entries : Array VocabularyEntry} :
    t ∈ eosIds entries ↔ ∃ e, entries[t]? = some e ∧ e.kind = .endOfSequence := by
  simp only [eosIds, List.mem_filter, List.mem_range, Option.any_eq_true, beq_iff_eq]
  exact and_iff_right_of_imp fun ⟨_, h, _⟩ => (Array.getElem?_eq_some_iff.mp h).1

theorem eq_eos_iff : t = v.eos ↔ ∃ e, v.entry? t = some e ∧ e.kind = .endOfSequence := by
  rw [← List.mem_singleton, ← v.eosIds_entries, mem_eosIds]
  rfl

theorem ne_eos_of_isText (h : v.IsText t) : t ≠ v.eos := by
  intro heq
  obtain ⟨bytes, h⟩ := h
  obtain ⟨e, he, hkind⟩ := eq_eos_iff.mp heq
  rw [h] at he
  obtain rfl := Option.some.inj he
  cases hkind

end Vocabulary

namespace VocabularyIndex

theorem mem_textTokens : (t, bytes) ∈ textTokens v ↔ v.IsText t ∧ bytes = v.bytes t := by
  have hlt {e : VocabularyEntry} (h : v.entry? t = some e) : t < v.size :=
    (Array.getElem?_eq_some_iff.mp h).1
  rw [Vocabulary.isText_iff]
  simp only [textTokens, List.mem_filterMap, List.mem_range]
  constructor
  · rintro ⟨id, -, h⟩
    split at h
    · rename_i bs he
      cases h
      rw [Vocabulary.bytes_eq_of_entry he]
      exact ⟨he, rfl⟩
    · simp at h
  · rintro ⟨h, rfl⟩
    exact ⟨t, hlt h, by rw [h]⟩

theorem pairwise_textTokens (v : Vocabulary) : (textTokens v).Pairwise (·.1 < ·.1) := by
  rw [textTokens, List.pairwise_filterMap]
  refine List.pairwise_lt_range.imp fun {a b} hab p hp q hq => ?_
  split at hp
  · split at hq
    · rw [← Option.some.inj hp, ← Option.some.inj hq]
      exact hab
    · simp at hq
  · simp at hp

theorem mem_emptyTokens :
    t ∈ (ofVocabulary v).emptyTokens ↔ v.IsEmptyText t := by
  simp only [ofVocabulary, List.partition_eq_filter_filter, List.mem_map, List.mem_filter,
    List.isEmpty_iff, Prod.exists, mem_textTokens]
  constructor
  · rintro ⟨_, bs, ⟨⟨h, rfl⟩, hbs⟩, rfl⟩
    exact ⟨h, hbs⟩
  · rintro ⟨h, hbs⟩
    exact ⟨t, _, ⟨⟨h, rfl⟩, hbs⟩, rfl⟩

theorem represents_trie (v : Vocabulary) :
    (ofVocabulary v).trie.Represents ((textTokens v).filter fun p => !p.2.isEmpty) := by
  simp only [ofVocabulary, List.partition_eq_filter_filter]
  exact Trie.represents_foldl ((textTokens v).filter fun p => !p.2.isEmpty)

/-- The tokens at the node of a byte string are those that stand for it. -/
theorem mem_tokens_iff :
    (∃ n, (ofVocabulary v).trie.find? bytes = some n ∧ t ∈ (ofVocabulary v).trie.tokens n) ↔
      v.IsText t ∧ v.bytes t = bytes ∧ bytes ≠ [] := by
  have hrep := represents_trie v
  have hmem {bs : List UInt8} : (t, bs) ∈ (textTokens v).filter (fun p => !p.2.isEmpty) ↔
      v.IsText t ∧ v.bytes t = bs ∧ bs ≠ [] := by
    simp only [List.mem_filter, mem_textTokens, Bool.not_eq_true', List.isEmpty_eq_false_iff]
    rw [and_assoc, eq_comm (a := bs)]
  constructor
  · rintro ⟨n, hn, ht⟩
    rw [hrep.tokens hn] at ht
    obtain ⟨⟨id, bs⟩, hp, rfl⟩ := List.mem_map.mp ht
    obtain ⟨hp', hbs⟩ := List.mem_filter.mp hp
    obtain rfl := beq_iff_eq.mp hbs
    exact hmem.mp hp'
  · intro h
    have hp := hmem.mpr h
    have hsome := (hrep.isSome_iff bytes).mpr (.inr ⟨_, hp, List.prefix_rfl⟩)
    obtain ⟨n, hn⟩ := Option.isSome_iff_exists.mp hsome
    refine ⟨n, hn, ?_⟩
    rw [hrep.tokens hn]
    exact List.mem_map.mpr ⟨_, List.mem_filter.mpr ⟨hp, by simp⟩, rfl⟩

theorem nodup_emptyTokens (v : Vocabulary) : (ofVocabulary v).emptyTokens.Nodup := by
  simp only [ofVocabulary, List.partition_eq_filter_filter]
  rw [List.Nodup, List.pairwise_map]
  exact ((pairwise_textTokens v).filter _).imp fun h => h.ne

theorem nodup_tokens {n : NodeId} (hn : (ofVocabulary v).trie.find? bytes = some n) :
    ((ofVocabulary v).trie.tokens n).Nodup := by
  rw [(represents_trie v).tokens hn, List.Nodup, List.pairwise_map]
  exact (((pairwise_textTokens v).filter _).filter _).imp fun h => h.ne

end VocabularyIndex

end ConstrainedDecoding
