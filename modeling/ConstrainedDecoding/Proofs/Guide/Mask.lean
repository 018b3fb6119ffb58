import ConstrainedDecoding.Proofs.Guide.Language

/-! Masks leave the logits of exactly those tokens that can be advanced by. The mask of logits goes through the
allowed tokens once and relies on their order, the one of truth values does not. -/
namespace ConstrainedDecoding.Guide

variable {α : Type} {masked : α} {g : Guide} {v : Vocabulary} {options : IndexOptions} {s : StateId}

/-- The mask of an ascending list keeps the entries at the positions in the list. -/
theorem getElem?_maskFrom {tokens : List TokenId} {id : ℕ} (h : tokens.Pairwise (· < ·))
    (hid : ∀ t ∈ tokens, id ≤ t) (logits : List α) (i : ℕ) :
    (maskFrom masked id tokens logits)[i]? =
      logits[i]?.map fun x => if id + i ∈ tokens then x else masked := by
  induction logits generalizing tokens id i with
  | nil => cases tokens <;> rfl
  | cons x xs ih =>
    have hadd (i : ℕ) : id + 1 + i = id + (i + 1) := by omega
    cases tokens with
    | nil =>
      cases i with
      | zero => simp [maskFrom]
      | succ i => simpa [maskFrom] using ih h (by simp) i
    | cons t ts =>
      obtain ⟨ht, hts⟩ := List.pairwise_cons.mp h
      by_cases heq : t = id
      · subst heq
        rw [maskFrom, if_pos rfl]
        cases i with
        | zero => simp
        | succ i =>
          have hne : t + (i + 1) ≠ t := (Nat.lt_add_of_pos_right (Nat.succ_pos i)).ne'
          simpa [hadd, hne] using ih hts (fun u hu => ht u hu) i
      · have hlt : ∀ u ∈ t :: ts, id < u := by
          have htid := lt_of_le_of_ne (hid t List.mem_cons_self) (Ne.symm heq)
          exact List.forall_mem_cons.mpr ⟨htid, fun u hu => htid.trans (ht u hu)⟩
        rw [maskFrom, if_neg heq]
        cases i with
        | zero =>
          have hmem : id ∉ t :: ts := fun hmem => lt_irrefl id (hlt id hmem)
          simp [hmem]
        | succ i => simpa [hadd] using ih h hlt i

theorem length_maskFrom (tokens : List TokenId) (id : TokenId) (logits : List α) :
    (maskFrom masked id tokens logits).length = logits.length := by
  induction logits generalizing tokens id with
  | nil => cases tokens <;> rfl
  | cons x xs ih =>
    cases tokens with
    | nil => simp [maskFrom, ih]
    | cons t ts =>
      rw [maskFrom]
      split <;> simp [ih]

theorem length_maskLogits (g : Guide) (s : StateId) (logits : List α) :
    (g.maskLogits masked s logits).length = logits.length :=
  length_maskFrom _ _ _

theorem getElem?_foldl_setIfInBounds (tokens : List TokenId) (buffer : Array Bool) (i : ℕ) :
    (tokens.foldl (·.setIfInBounds · true) buffer)[i]? = buffer[i]?.map fun b => b || decide (i ∈ tokens) := by
  induction tokens generalizing buffer with
  | nil => simp
  | cons t ts ih =>
    rw [List.foldl_cons, ih]
    by_cases ht : t = i
    · subst ht
      rcases Nat.lt_or_ge t buffer.size with hlt | hle
      · simp [hlt]
      · simp [hle]
    · rw [Array.getElem?_setIfInBounds_ne ht]
      simp [Ne.symm ht]

/-- A mask says of its positions whether they are allowed, whatever it said before. -/
theorem getElem?_allowedMask (g : Guide) (s : StateId) (buffer : Array Bool) (i : ℕ) :
    (g.allowedMask s buffer)[i]? = buffer[i]?.map fun _ => decide (i ∈ g.allowedTokens s) := by
  rw [allowedMask, getElem?_foldl_setIfInBounds, Array.getElem?_map, Option.map_map]
  simp [Function.comp_def]

namespace IsFor

theorem getElem?_maskLogits (h : g.IsFor v options) (s : StateId) (logits : List α) (i : ℕ) :
    (g.maskLogits masked s logits)[i]? =
      logits[i]?.map fun x => if i ∈ g.allowedTokens s then x else masked := by
  rw [maskLogits, getElem?_maskFrom (h.pairwise_allowedTokens s) (fun t _ => Nat.zero_le t)]
  simp

theorem maskLogits_maskLogits (h : g.IsFor v options) (s : StateId) (logits : List α) :
    g.maskLogits masked s (g.maskLogits masked s logits) = g.maskLogits masked s logits := by
  refine List.ext_getElem? fun i => ?_
  rw [h.getElem?_maskLogits, h.getElem?_maskLogits, Option.map_map]
  refine Option.map_congr fun x _ => ?_
  rw [Function.comp_apply]
  split <;> rfl

theorem exists_getElem?_maskLogits_iff (h : g.IsFor v options) {logits : List α} {i : ℕ}
    (hlogits : masked ∉ logits) :
    (∃ x, (g.maskLogits masked s logits)[i]? = some x ∧ x ≠ masked) ↔
      i ∈ g.allowedTokens s ∧ i < logits.length := by
  rw [h.getElem?_maskLogits]
  constructor
  · rintro ⟨x, hx, hne⟩
    obtain ⟨y, hy, rfl⟩ := Option.map_eq_some_iff.mp hx
    have hmem : i ∈ g.allowedTokens s := by
      by_contra hnot
      exact hne (if_neg hnot)
    exact ⟨hmem, (List.getElem?_eq_some_iff.mp hy).1⟩
  · rintro ⟨hmem, hlt⟩
    refine ⟨logits[i], by simp [hlt, hmem], fun heq => hlogits ?_⟩
    exact heq ▸ List.getElem_mem hlt

theorem vocabularySize_eq (h : g.IsFor v options) : g.vocabularySize = v.size := by
  obtain ⟨limits, nfa, -, hg⟩ := h
  simp only [Guide.ofDfa, bind_eq_ok_iff, pure_eq_ok_iff] at hg
  obtain ⟨tables, -, hg⟩ := hg
  rw [← hg]
  rfl

theorem lt_of_mem_allowedTokens (h : g.IsFor v options) {t : TokenId} (ht : t ∈ g.allowedTokens s) :
    t < v.size := by
  obtain ⟨e, he, -⟩ := h.entry_of_mem_allowedTokens ht
  exact (Array.getElem?_eq_some_iff.mp he).1

end IsFor

/-- Masking is exact, whatever the lengths of the buffers are. A logit stays if its token is allowed and is
masked otherwise, a truth value becomes whether its token is allowed, so that both say the same of every token,
and masking logits once more changes nothing. -/
theorem masks_exact (h : g.IsFor v options) (masked : α) (s : StateId) (logits : List α) (buffer : Array Bool) :
    (∀ i : ℕ, (g.maskLogits masked s logits)[i]? =
      logits[i]?.map fun x => if i ∈ g.allowedTokens s then x else masked) ∧
    (∀ i : ℕ, (g.allowedMask s buffer)[i]? = buffer[i]?.map fun _ => decide (i ∈ g.allowedTokens s)) ∧
    (∀ (i : ℕ) x (b : Bool), logits[i]? = some x → (g.allowedMask s buffer)[i]? = some b →
      (g.maskLogits masked s logits)[i]? = some (if b then x else masked)) ∧
    g.maskLogits masked s (g.maskLogits masked s logits) = g.maskLogits masked s logits := by
  refine ⟨h.getElem?_maskLogits s logits, g.getElem?_allowedMask s buffer, fun i x b hx hb => ?_,
    h.maskLogits_maskLogits s logits⟩
  rw [getElem?_allowedMask] at hb
  obtain ⟨_, -, rfl⟩ := Option.map_eq_some_iff.mp hb
  simp [h.getElem?_maskLogits, hx]

/-- A guide of `ab` masks a list of logits that is longer than the vocabulary as a buffer that is shorter. -/
theorem masks_exact_ab : ∃ g, Guide.ofPattern {} "ab" (.ofVocabulary abVocabulary) = .ok g ∧
    ∀ b, (g.allowedMask g.initial #[true, false])[1]? = some b →
      (g.maskLogits none g.initial [some 5, some 6, some 7, some 8, some 9, some 10, some 11])[1]? =
        some (if b then some 6 else none) := by
  obtain ⟨g, hg⟩ := ofPattern_ab
  have hmasks := masks_exact (ofPattern_eq_ok hg).2 none g.initial
    [some 5, some 6, some 7, some 8, some 9, some 10, some 11] #[true, false]
  exact ⟨g, hg, fun b hb => hmasks.2.2.1 1 (some 6) b rfl hb⟩

end ConstrainedDecoding.Guide
