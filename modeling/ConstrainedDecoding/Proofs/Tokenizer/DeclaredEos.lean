import ConstrainedDecoding.Proofs.Vocabulary.Constructors
import ConstrainedDecoding.Tokenizer.Vocabulary

/-! Tokenizers whose configuration declares by a number which token ends sequences. The number may be
too large for a token id; what a word of 32 bits keeps of it is used then.
-/
namespace ConstrainedDecoding.TokenizerFiles

open Vocabulary (idCount)

variable {f : TokenizerFiles} {n : ℕ} {v : Vocabulary} {eos : TokenId}

def DeclaresEos (f : TokenizerFiles) (n : ℕ) : Prop :=
  ((f.config.bind Json.ofString?).bind (·.get? "eos_token_id")).bind (·.word? 64) = some n

instance : Decidable (f.DeclaresEos n) := inferInstanceAs (Decidable (_ = _))

/-- The files give no vocabulary in which another token ends sequences. -/
def Honours (f : TokenizerFiles) (n : ℕ) : Prop :=
  ∀ v, f.vocabulary none = .ok v →
    v.eos = n ∧ ∀ t, (∃ e, v.entry? t = some e ∧ e.kind = .endOfSequence) ↔ t = n

/-- The number comes before any text of a token and before the words of convention. -/
theorem DeclaresEos.resolveEos? (h : f.DeclaresEos n) (t : Tokenizer) :
    t.resolveEos? f.config = some (n % idCount) := by
  obtain ⟨id, hmember, hid⟩ := Option.bind_eq_some_iff.mp h
  obtain ⟨config, hconfig, hmember⟩ := Option.bind_eq_some_iff.mp hmember
  simp [Tokenizer.resolveEos?, Tokenizer.declaredEos?, hconfig, hmember, hid]

theorem DeclaresEos.vocabulary_eq (h : f.DeclaresEos n) :
    f.vocabulary none = f.vocabulary (some (n % idCount)) := by
  simp only [vocabulary, Option.none_or, h.resolveEos?, Option.some_or]

theorem vocabulary_some_eq_ok_iff :
    f.vocabulary (some eos) = .ok v ↔
      ∃ t encoding, f.load = .ok t ∧ f.encoding = .ok encoding ∧
        Vocabulary.ofTokenizer t encoding eos = .ok v := by
  simp [vocabulary]

theorem eos_of_vocabulary_some (h : f.vocabulary (some eos) = .ok v) :
    v.eos = eos ∧ ∀ t, (∃ e, v.entry? t = some e ∧ e.kind = .endOfSequence) ↔ t = eos := by
  obtain ⟨t, encoding, -, -, h⟩ := vocabulary_some_eq_ok_iff.mp h
  obtain ⟨rfl, -⟩ := Vocabulary.eos_of_ofDecoder h
  exact ⟨rfl, fun t ↦ Vocabulary.eq_eos_iff.symm⟩

theorem exists_vocabulary_some_iff :
    (∃ v, f.vocabulary (some eos) = .ok v) ↔
      ∃ t encoding, f.load = .ok t ∧ f.encoding = .ok encoding ∧ eos < t.size % idCount := by
  simp only [vocabulary_some_eq_ok_iff]
  constructor
  · rintro ⟨v, t, encoding, hload, hencoding, h⟩
    exact ⟨t, encoding, hload, hencoding, Vocabulary.exists_ofDecoder_iff.mp ⟨v, h⟩⟩
  · rintro ⟨t, encoding, hload, hencoding, hlt⟩
    obtain ⟨v, h⟩ := Vocabulary.exists_ofDecoder_iff.mpr hlt
    exact ⟨v, t, encoding, hload, hencoding, h⟩

/-- What 32 bits keep of the declared number ends sequences. If the number does not fit them, it is
honoured only where there is no vocabulary. -/
theorem vocabulary_of_declaresEos (h : f.DeclaresEos n) :
    f.vocabulary none = f.vocabulary (some (n % idCount)) ∧
      f.Honours (n % idCount) ∧
      ((∃ v, f.vocabulary none = .ok v) ↔
        ∃ t encoding, f.load = .ok t ∧ f.encoding = .ok encoding ∧ n % idCount < t.size % idCount) ∧
      (f.Honours n ↔ n < idCount ∨ ∀ v, f.vocabulary none ≠ .ok v) := by
  have heq := h.vocabulary_eq
  have hhonours : f.Honours (n % idCount) := fun v hv ↦ eos_of_vocabulary_some (heq ▸ hv)
  refine ⟨heq, hhonours, heq ▸ exists_vocabulary_some_iff, fun hn ↦ ?narrow, ?fits⟩
  case narrow =>
    rw [or_iff_not_imp_right]
    intro hv
    push Not at hv
    obtain ⟨v, hv⟩ := hv
    have hmod : n % idCount = n := (hhonours v hv).1.symm.trans (hn v hv).1
    exact hmod ▸ Nat.mod_lt n (by decide)
  case fits =>
    rintro (hlt | hnone)
    · rwa [Nat.mod_eq_of_lt hlt] at hhonours
    · exact fun v hv ↦ absurd hv (hnone v)

section Wide

open Tokenizer

/-- A tokenizer of one word, beside a number of 33 bits. -/
def wide : TokenizerFiles where
  path := "tokenizer.json"
  tokenizer := some "\x7b\"model\": \x7b\"type\": \"WordLevel\", \"vocab\": \x7b\"a\": 0\x7d, \"unk_token\": \"a\"\x7d\x7d"
  config := some "\x7b\"eos_token_id\": 4294967296\x7d"

def wideModel : Json :=
  .object [("type", .string "WordLevel"),
    ("vocab", .object [("a", .number ⟨false, [0], [], none⟩)]), ("unk_token", .string "a")]

def wideTokenizer : Tokenizer where
  model := .wordLevel (.ofList [("a", 0)]) "a"
  added := .empty
  normalizer := none
  preTokenizer := none
  postProcessor := none
  truncation := none
  padding := none

theorem parse?_wide : wide.tokenizer.bind Json.parse? = some (.object [("model", wideModel)]) := by
  have htokens : wide.tokenizer.bind (Json.Token.ofChars ·.toList) = some
      [.beginObject, .string "model", .colon,
        .beginObject, .string "type", .colon, .string "WordLevel", .comma,
          .string "vocab", .colon,
            .beginObject, .string "a", .colon, .number ⟨false, [0], [], none⟩, .endObject, .comma,
          .string "unk_token", .colon, .string "a", .endObject,
        .endObject] := by
    decide +kernel
  simp only [wide, Option.bind_some] at htokens ⊢
  rw [Json.parse?, htokens]
  rfl

theorem model?_wide : File.model? wideModel = some (.wordLevel (.ofList [("a", 0)]) "a") := by
  simp [File.model?, File.modelKinds, File.wordLevel?, File.lexicon?, wideModel, Json.ofKinds?, Json.tag?,
    Json.unit?, Json.variant?, Json.settle, Json.settleMembers, Json.lastEntries, Json.get?,
    Json.members?, Json.Fields.get?, Json.text?, Json.word?, Json.Number.word?, Json.Number.isInteger,
    Json.Number.valueOf, List.lookup_cons]

theorem load_wide : wide.load = .ok wideTokenizer := by
  have hsound : wideModel.isSound (Json.maxDepth - 1) = true := by decide +kernel
  have hread : Tokenizer.ofJson? (.object [("model", wideModel)]) = some wideTokenizer := by
    simp [Tokenizer.ofJson?, File.Draft.read?, File.Draft.finish?, File.component?, hsound, model?_wide]
    rfl
  rw [load, parse?_wide, Option.bind_some, hread]

theorem size_wideTokenizer : wideTokenizer.size = 1 := by
  have hids : ((∅ : Std.HashMap String TokenId).insert "a" 0).toList = [("a", 0)] := by
    refine List.perm_singleton.mp (Std.HashMap.toList_insert_perm.trans ?_)
    rw [Std.HashMap.toList_empty]
    rfl
  rw [Tokenizer.size, Std.HashMap.fold_eq_foldl_toList, wideTokenizer, Model.lexicon, Lexicon.ofList,
    List.foldl_cons, List.foldl_nil, hids]
  rfl

theorem declaresEos_wide : wide.DeclaresEos idCount := by decide +kernel

/-- The first token ends sequences, though the declared number is that of no token. -/
theorem exists_vocabulary_wide : ∃ v, wide.vocabulary none = .ok v ∧ v.eos = 0 := by
  have hencoding : (wide.encoding).isOk = true := by decide +kernel
  obtain ⟨encoding, hencoding⟩ := exists_of_isOk hencoding
  have hexists : ∃ v, wide.vocabulary (some 0) = .ok v :=
    exists_vocabulary_some_iff.mpr
      ⟨wideTokenizer, encoding, load_wide, hencoding, by rw [size_wideTokenizer]; decide⟩
  obtain ⟨v, hv⟩ := hexists
  exact ⟨v, declaresEos_wide.vocabulary_eq.trans hv, (eos_of_vocabulary_some hv).1⟩

theorem honours_wide : wide.DeclaresEos idCount ∧ wide.Honours 0 :=
  ⟨declaresEos_wide, (vocabulary_of_declaresEos declaresEos_wide).2.1⟩

theorem not_honours_wide : wide.DeclaresEos idCount ∧ ¬ wide.Honours idCount := by
  refine ⟨declaresEos_wide, fun h ↦ ?_⟩
  obtain ⟨v, hv, heos⟩ := exists_vocabulary_wide
  exact absurd ((h v hv).1.symm.trans heos) (by decide)

end Wide

end ConstrainedDecoding.TokenizerFiles
