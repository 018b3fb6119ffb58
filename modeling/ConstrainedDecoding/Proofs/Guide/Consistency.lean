import ConstrainedDecoding.Proofs.Guide.Completion
import Mathlib

/-! The tables of a guide agree with each other, with its automaton and with the vocabulary, in every state
and for every token, whether there are such or not. -/
namespace ConstrainedDecoding.Guide

variable {v : Vocabulary} {options : IndexOptions} {s s' : StateId} {t : TokenId} {g : Guide}

/-- What is said about one state and one token agrees with all else that is said about them. -/
structure Consistent (g : Guide) (v : Vocabulary) : Prop where
  ascending : ∀ s, (g.allowedTokens s).Pairwise (· < ·)
  advance : ∀ s t, (∃ s', g.advance s t = .ok s') ↔ t ∈ g.allowedTokens s
  refusal : ∀ s t, t ∉ g.allowedTokens s → g.advance s t = .error (.invalidTransition s t)
  target : ∀ s t s', g.advance s t = .ok s' → s' ≤ g.terminal ∧ g.allowedTokens s' ≠ []
  eos : ∀ s, g.eos ∈ g.allowedTokens s ↔ g.isFinal s
  stop : ∀ s, g.isFinal s → g.advance s g.eos = .ok g.terminal
  only_eos : ∀ s t, g.advance s t = .ok g.terminal → t = g.eos
  terminal : g.allowedTokens g.terminal = [g.eos]
  ordinary : ∀ s, ∀ t ∈ g.allowedTokens s, ∃ e, v.entry? t = some e ∧ e.kind ≠ .special
  count : ((List.range g.tables.stateCount).map fun s => (g.allowedTokens s).length).sum =
    g.tables.transitionCount

private theorem size_foldl_insert {row : Edges} (h : row.Pairwise (·.1 < ·.1)) :
    (row.foldl (fun m (token, next) => m.insert token next) (∅ : Std.HashMap TokenId StateId)).size =
      row.length := by
  have hfold (m : Std.HashMap TokenId StateId) (row : Edges) :
      row.foldl (fun m (token, next) => m.insert token next) m = m.insertMany row := by
    induction row generalizing m with
    | nil => rw [List.foldl_nil, Std.HashMap.insertMany_nil]
    | cons p row ih => rw [List.foldl_cons, ih, Std.HashMap.insertMany_cons]
  rw [hfold, ← Std.HashMap.ofList_eq_insertMany_empty]
  exact Std.HashMap.size_ofList (h.imp fun hlt => beq_false_of_ne hlt.ne)

theorem transitionCount_ofRows {rows : Array Edges} (h : ∀ row ∈ rows, row.Pairwise (·.1 < ·.1)) :
    (Tables.ofRows rows).transitionCount = (rows.toList.map List.length).sum := by
  have hsizes : (Tables.ofRows rows).targets.toList.map Std.HashMap.size = rows.toList.map List.length := by
    rw [Tables.ofRows, Array.toList_map, List.map_map]
    exact List.map_congr_left fun row hrow => size_foldl_insert (h row (Array.mem_toList_iff.mp hrow))
  rw [← hsizes, List.sum_eq_foldl, List.foldl_map, Array.foldl_toList]
  rfl

namespace IsFor

theorem sum_length_allowedTokens (h : g.IsFor v options) :
    ((List.range g.tables.stateCount).map fun s => (g.allowedTokens s).length).sum =
      g.tables.transitionCount := by
  obtain ⟨rows, htables, hrows⟩ := h.exists_rows
  have hlengths : (List.range g.tables.stateCount).map (fun s => (g.allowedTokens s).length) =
      rows.toList.map List.length := by
    refine List.ext_getElem ?_ fun s hs hs' => ?_
    · simp [htables, Tables.stateCount, Tables.ofRows]
    · rw [List.length_map, Array.length_toList] at hs'
      simp [htables, Guide.allowedTokens, Tables.allowedTokens, Tables.ofRows, hs']
  rw [hlengths, htables, transitionCount_ofRows hrows]

theorem advance_of_not_mem (h : g.IsFor v options) (ht : t ∉ g.allowedTokens s) :
    g.advance s t = .error (.invalidTransition s t) := by
  have hnone : ∀ s', g.advance s t ≠ .ok s' := fun s' hs' => ht (h.mem_allowedTokens.mpr ⟨s', hs'⟩)
  unfold Guide.advance at hnone ⊢
  cases hnext : g.tables.next? s t with
  | none => rfl
  | some s' => exact absurd (by rw [hnext]) (hnone s')

/-- A token leads to a state where some token is allowed, and only the end of the sequence to the terminal
one. -/
theorem advance_target (h : g.IsFor v options) (hs' : g.advance s t = .ok s') :
    s' ≤ g.terminal ∧ g.allowedTokens s' ≠ [] ∧ (s' = g.terminal → t = g.eos) := by
  rw [h.terminal_eq, h.eos_eq, h.allowedTokens_ne_nil_iff]
  cases h.advance_eq_ok_iff.mp hs' with
  | text _ _ hlive =>
    have hlt : s' < g.dfa.size := hlive.lt h.wellFormed
    exact ⟨hlt.le, h.reachable_of_live hlive, fun heq => absurd heq hlt.ne⟩
  | stop => exact ⟨le_rfl, h.reachable_terminal, fun _ => rfl⟩
  | again => exact ⟨le_rfl, h.reachable_terminal, fun _ => rfl⟩

theorem advance_eos_iff (h : g.IsFor v options) :
    g.advance s g.eos = .ok s' ↔ g.isFinal s ∧ s' = g.terminal := by
  rw [h.advance_eq_ok_iff, h.eos_eq, Guide.isFinal, h.terminal_eq]
  simp only [Bool.or_eq_true, beq_iff_eq, Bool.and_eq_true, Bool.not_eq_true', List.isEmpty_eq_false_iff,
    h.allowedTokens_ne_nil_iff]
  constructor
  · intro hstep
    refine ⟨?_, hstep.of_eos⟩
    cases hstep with
    | text _ ht => exact absurd rfl (Vocabulary.ne_eos_of_isText ht.1.1)
    | stop hs ha => exact .inr ⟨ha, h.reachable_of_live hs⟩
    | again => exact .inl rfl
  · rintro ⟨rfl | ⟨ha, hs⟩, rfl⟩
    · exact .again
    · rcases h.live_or_terminal hs with hlive | rfl
      · exact .stop hlive ha
      · exact .again

theorem allowedTokens_terminal (h : g.IsFor v options) : g.allowedTokens g.terminal = [g.eos] := by
  have hmem (t : TokenId) : t ∈ g.allowedTokens g.terminal ↔ t = g.eos := by
    rw [h.mem_allowedTokens, h.terminal_eq, h.eos_eq]
    simp only [h.advance_terminal, exists_and_left, exists_eq, and_true]
  have hnodup : (g.allowedTokens g.terminal).Nodup := (h.pairwise_allowedTokens _).imp fun hlt => hlt.ne
  have hperm := (List.perm_ext_iff_of_nodup hnodup (List.nodup_singleton g.eos)).mpr fun t => by
    rw [hmem, List.mem_singleton]
  exact List.perm_singleton.mp hperm

end IsFor

/-- All that a guide says about states and tokens is consistent. -/
theorem consistent (h : g.IsFor v options) : g.Consistent v where
  ascending := h.pairwise_allowedTokens
  advance _ _ := h.mem_allowedTokens.symm
  refusal _ _ := h.advance_of_not_mem
  target _ _ _ hs' := ⟨(h.advance_target hs').1, (h.advance_target hs').2.1⟩
  eos s := by
    rw [h.mem_allowedTokens]
    simp only [h.advance_eos_iff, exists_and_left, exists_eq, and_true]
  stop _ hs := h.advance_eos_iff.mpr ⟨hs, rfl⟩
  only_eos _ _ hs' := (h.advance_target hs').2.2 rfl
  terminal := h.allowedTokens_terminal
  ordinary _ _ := h.entry_of_mem_allowedTokens
  count := h.sum_length_allowedTokens

theorem consistent_ab :
    ∃ g, Guide.ofPattern {} "ab" (.ofVocabulary abVocabulary) = .ok g ∧ g.Consistent abVocabulary := by
  obtain ⟨g, hg⟩ := ofPattern_ab
  exact ⟨g, hg, consistent (ofPattern_eq_ok hg).2⟩

end ConstrainedDecoding.Guide
