import ConstrainedDecoding.Proofs.Guide.Utf8
import ConstrainedDecoding.Proofs.Vocabulary.Constructors

/-! Decoding keeps the bytes of all tokens, guides look at tokens of text only. The two agree when other
tokens have no bytes; then what a finished walk decodes to is a match. -/
namespace ConstrainedDecoding

/-- Decoding passes over everything but text exactly when nothing else has bytes. -/
theorem Vocabulary.decode_eq_spelling_iff {v : Vocabulary} :
    (∀ ts, v.decode ts = v.spelling ts) ↔ v.Silent := by
  constructor
  · intro h t ht
    simpa [decode, spelling, ht] using h [t]
  · exact fun h ts => (decode_filter fun t _ ht => h t (by simpa using ht)).symm

namespace Guide

variable {source : VocabularySource} {v : Vocabulary}

/-- Decoding passes over the tokens that stand for no text, unless the vocabulary is made from entries that
bring bytes with such tokens. Where it does, what a walk to the end of the sequence decodes to is
accepted. -/
theorem accepts_decode (h : source.vocabulary = .ok v) :
    (source.Silent ↔ ∀ ts, v.decode ts = v.spelling ts) ∧
      (source.Silent →
        (∀ (keep : TokenId → Bool) ts, (∀ t ∈ ts, v.IsText t → keep t) →
          v.decode (ts.filter keep) = v.decode ts) ∧
        ∀ (options : IndexOptions) (g : Guide), g.IsFor v options →
          ∀ ts s, g.advanceAll g.initial ts = .ok s → ts.getLast? = some v.eos →
            g.dfa.accepts (v.decode ts)) := by
  have hiff : source.Silent ↔ ∀ ts, v.decode ts = v.spelling ts :=
    (VocabularySource.silent_iff h).symm.trans Vocabulary.decode_eq_spelling_iff.symm
  refine ⟨hiff, fun hsilent => ⟨fun keep ts hkeep => ?_, fun options g hg ts s hts hlast => ?_⟩⟩
  · have hnone := (VocabularySource.silent_iff h).mpr hsilent
    exact Vocabulary.decode_filter fun t ht hdropped => hnone t fun htext => hdropped (hkeep t ht htext)
  · obtain ⟨rest, hacc, hrest⟩ := hg.exists_accepts hts
    rw [hrest (List.mem_of_getLast? hlast), List.append_nil, ← hiff.mp hsilent] at hacc
    exact hacc

/-- The decoder also gives a byte for the end of a sequence. -/
def abSource : VocabularySource :=
  .decoder 6 5 (#[some [97], some [98], some [97, 98], some [], none, some [120]][·]?.join)

theorem vocabulary_abSource : abSource.vocabulary = .ok abVocabulary := by
  rw [abSource, VocabularySource.vocabulary, Vocabulary.ofDecoder, if_neg (by decide),
    Vocabulary.ofEntries_eq_ok_iff]
  cbv

theorem accepts_decode_ab : abSource.vocabulary = .ok abVocabulary ∧ abSource.Silent ∧
    abVocabulary.decode ([4, 0, 5, 3, 1, 9].filter (· < 4)) = abVocabulary.decode [4, 0, 5, 3, 1, 9] ∧
    ∃ g s, Guide.ofPattern {} "ab" (.ofVocabulary abVocabulary) = .ok g ∧
      g.advanceAll g.initial [0, 3, 1, 5] = .ok s ∧
        g.dfa.accepts (abVocabulary.decode [0, 3, 1, 5]) := by
  have hsilent : abSource.Silent := trivial
  obtain ⟨hfilter, haccepts⟩ := (accepts_decode vocabulary_abSource).2 hsilent
  obtain ⟨g, hg⟩ := ofPattern_ab
  have hfor := (ofPattern_eq_ok hg).2
  have huses : ∀ t ∈ [0, 3, 1], ({} : IndexOptions).Uses abVocabulary t := by
    simp [IndexOptions.Uses, Vocabulary.IsText, Vocabulary.entry?, abVocabulary]
  obtain ⟨s, hs⟩ := (hfor.exists_ends_iff (by decide)).mpr ⟨huses, (accepts_ofPattern_ab hg _).mpr rfl⟩
  have htext : ∀ t ∈ [4, 0, 5, 3, 1, 9], abVocabulary.IsText t → t < 4 := by decide
  exact ⟨vocabulary_abSource, hsilent, hfilter _ _ (by simpa using htext), g, s, hg, hs,
    haccepts _ g hfor _ s hs rfl⟩

/-- The end of a sequence comes with a byte. -/
def loudVocabulary : Vocabulary where
  entries := #[{ kind := .text, bytes := [97, 98] }, { kind := .endOfSequence, bytes := [120] }]
  eos := 1
  eosIds_entries := by decide

/-- The byte is decoded after the match, which it spoils. -/
theorem exists_not_accepts_decode :
    (VocabularySource.entries loudVocabulary.entries).vocabulary = .ok loudVocabulary ∧
      loudVocabulary.decode [0, 1] ≠ loudVocabulary.decode ([0, 1].filter (· ≠ loudVocabulary.eos)) ∧
      ∃ g s, Guide.ofPattern {} "ab" (.ofVocabulary loudVocabulary) = .ok g ∧
        g.advanceAll g.initial [0, 1] = .ok s ∧
          loudVocabulary.decode [0, 1] ≠ loudVocabulary.spelling [0, 1] ∧
            ¬ g.dfa.accepts (loudVocabulary.decode [0, 1]) := by
  obtain ⟨g, hg⟩ := exists_ofPattern_ab (v := loudVocabulary) (t := 0) rfl
  have haccepts := accepts_ofPattern_ab hg
  have huses : ∀ t ∈ [0], ({} : IndexOptions).Uses loudVocabulary t := by
    simp [IndexOptions.Uses, Vocabulary.IsText, Vocabulary.entry?, loudVocabulary]
  obtain ⟨s, hs⟩ := ((ofPattern_eq_ok hg).2.exists_ends_iff (by decide)).mpr
    ⟨huses, (haccepts _).mpr rfl⟩
  refine ⟨?_, by decide, g, s, hg, hs, by decide, ?_⟩
  · rw [VocabularySource.vocabulary, Vocabulary.ofEntries_eq_ok_iff]
  · rw [haccepts]
    decide

end Guide

end ConstrainedDecoding
