import ConstrainedDecoding.Proofs.Guide.Naive
import ConstrainedDecoding.Proofs.Guide.Rows

/-! Empty tokens only ever stay where they are. Tables that skip them are those that keep them without these
loops: a loop brings no state nearer to the start or to a match, so every other edge remains or goes as before. -/
namespace ConstrainedDecoding.Guide
open Automaton (ByteAutomaton)
open Relation (ReflTransGen)

variable {a : ByteAutomaton} {v : Vocabulary} {options : IndexOptions} {s s' : StateId} {t : TokenId}
  {edges edges' : Array Edges}

structure AddsLoops (edges edges' : Array Edges) : Prop where
  keeps : ∀ {s t s'}, (t, s') ∈ edges.getD s [] → (t, s') ∈ edges'.getD s []
  adds : ∀ {s t s'}, (t, s') ∈ edges'.getD s [] → (t, s') ∈ edges.getD s [] ∨ s' = s

namespace AddsLoops

/-- Loops lead nowhere else. -/
theorem path_iff (h : AddsLoops edges edges') {n : ℕ} :
    ReflTransGen (Connects n edges') s s' ↔ ReflTransGen (Connects n edges) s s' := by
  constructor
  · intro hpath
    induction hpath with
    | refl => exact .refl
    | tail _ he ih =>
      obtain ⟨hs, hs', t, ht⟩ := he
      -- a loop can be left out of the path
      rcases h.adds ht with ht | rfl
      · exact ih.tail ⟨hs, hs', t, ht⟩
      · exact ih
  · exact fun hpath => hpath.lift id fun _ _ ⟨hs, hs', t, ht⟩ => ⟨hs, hs', t, h.keeps ht⟩

theorem useful_iff (h : AddsLoops edges edges') : Useful a edges' s ↔ Useful a edges s := by
  constructor
  · rintro ⟨hs, hreach, u, hu, hacc, hpath⟩
    exact ⟨hs, h.path_iff.mp hreach, u, hu, hacc, h.path_iff.mp hpath⟩
  · rintro ⟨hs, hreach, u, hu, hacc, hpath⟩
    exact ⟨hs, h.path_iff.mpr hreach, u, hu, hacc, h.path_iff.mpr hpath⟩

end AddsLoops

abbrev skipping (options : IndexOptions) : IndexOptions := { options with skipEmptyTokens := true }

abbrev keeping (options : IndexOptions) : IndexOptions := { options with skipEmptyTokens := false }

theorem mem_allEdges_keeping_iff :
    (t, s') ∈ (allEdges a (.ofVocabulary v) (keeping options)).getD s [] ↔
      (t, s') ∈ (allEdges a (.ofVocabulary v) (skipping options)).getD s [] ∨
        s < a.size ∧ v.IsEmptyText t ∧ s' = s := by
  simp only [mem_allEdges_iff, not_true, Bool.false_eq_true, not_false_eq_true, true_and, false_and, false_or]
  tauto

theorem addsLoops_keeping : AddsLoops (allEdges a (.ofVocabulary v) (skipping options))
    (allEdges a (.ofVocabulary v) (keeping options)) where
  keeps h := mem_allEdges_keeping_iff.mpr (.inl h)
  adds h := (mem_allEdges_keeping_iff.mp h).imp_right fun ⟨_, _, heq⟩ => heq

theorem not_isEmptyText_of_mem_rows (h : (t, s') ∈ (rows a v (skipping options)).getD s []) :
    ¬ v.IsEmptyText t := by
  intro ht
  have heos : t ≠ v.eos := Vocabulary.ne_eos_of_isText ht.1
  rcases mem_rows_iff.mp h with ⟨-, u, hu, -⟩ | ⟨-, rfl, -⟩
  · rcases (mem_allEdges_iff.mp hu).2 with ⟨-, hbytes, -⟩ | ⟨hskip, -⟩ | ⟨rfl, -⟩
    · exact hbytes ht.2
    · exact hskip rfl
    · exact heos rfl
  · exact heos rfl

/-- When empty tokens are kept, the tables have a loop of each of them in every useful state as well. -/
theorem mem_rows_keeping_iff : (t, s') ∈ (rows a v (keeping options)).getD s [] ↔
    (t, s') ∈ (rows a v (skipping options)).getD s [] ∨
      Useful a (allEdges a (.ofVocabulary v) (skipping options)) s ∧ v.IsEmptyText t ∧ s' = s := by
  simp only [mem_rows_iff, mem_allEdges_keeping_iff, addsLoops_keeping.useful_iff]
  constructor
  · rintro (⟨hs, u, ht | ⟨-, ht, rfl⟩, hu, rfl⟩ | h)
    · exact .inl (.inl ⟨hs, u, ht, hu, rfl⟩)
    · exact .inr ⟨hs, ht, if_neg (Vocabulary.ne_eos_of_isText ht.1)⟩
    · exact .inl (.inr h)
  · rintro ((⟨hs, u, ht, hu, rfl⟩ | h) | ⟨hs, ht, rfl⟩)
    · exact .inl ⟨hs, u, .inl ht, hu, rfl⟩
    · exact .inr h
    · have heos : t ≠ v.eos := Vocabulary.ne_eos_of_isText ht.1
      exact .inl ⟨hs, s', .inr ⟨hs.lt, ht, rfl⟩, hs, (if_neg heos).symm⟩

/-- Two tables differ in the loops of empty tokens alone. -/
structure DifferInLoops (v : Vocabulary) (skipped kept : Tables) : Prop where
  stateCount : kept.stateCount = skipped.stateCount
  /-- Where tokens are allowed before the end, every empty one is allowed as well and leads back. -/
  loops : ∀ s, s ≠ skipped.terminal → skipped.allowedTokens s ≠ [] →
    (∀ t, t ∈ kept.allowedTokens s ↔ t ∈ skipped.allowedTokens s ∨ v.IsEmptyText t) ∧
    ∀ t, v.IsEmptyText t → kept.next? s t = some s
  /-- In all other states the same tokens are allowed. -/
  rest : ∀ s, s = skipped.terminal ∨ skipped.allowedTokens s = [] →
    kept.allowedTokens s = skipped.allowedTokens s
  skips : ∀ s t, v.IsEmptyText t → t ∉ skipped.allowedTokens s
  others : ∀ s t, ¬ v.IsEmptyText t → kept.next? s t = skipped.next? s t

theorem differInLoops_rows : DifferInLoops v (.ofRows (rows a v (skipping options)))
    (.ofRows (rows a v (keeping options))) where
  stateCount := by rw [stateCount_ofRows, stateCount_ofRows]
  loops s hs hne := by
    rw [terminal_ofRows] at hs
    rw [ne_eq, allowedTokens_ofRows_eq_nil_iff, not_not] at hne
    have huseful := hne.resolve_right hs
    constructor
    · intro t
      simp only [mem_allowedTokens_ofRows, mem_rows_keeping_iff, exists_or, huseful, true_and,
        exists_and_left, exists_eq, and_true]
    · intro t ht
      rw [next?_ofRows fun _ => pairwise_of_mem_rows]
      exact mem_rows_keeping_iff.mpr (.inr ⟨huseful, ht, rfl⟩)
  rest s hs := by
    rw [terminal_ofRows] at hs
    rcases hs with rfl | hs
    · rw [allowedTokens_ofRows, allowedTokens_ofRows, getD_rows_size, getD_rows_size]
    · rw [hs]
      rw [allowedTokens_ofRows_eq_nil_iff] at hs ⊢
      rwa [addsLoops_keeping.useful_iff]
  skips s t ht hmem := by
    obtain ⟨s', hs'⟩ := mem_allowedTokens_ofRows.mp hmem
    exact not_isEmptyText_of_mem_rows hs' ht
  others s t ht := by
    refine Option.ext fun s' => ?_
    rw [next?_ofRows fun _ => pairwise_of_mem_rows, next?_ofRows fun _ => pairwise_of_mem_rows,
      mem_rows_keeping_iff, or_iff_left fun h => ht h.2.1]

/-- Skipping empty tokens removes exactly their loops. With and without them there are tables or there are
none, and tables differ in these loops alone, for every automaton and every vocabulary. -/
theorem ofAutomaton_differInLoops (a : ByteAutomaton) (v : Vocabulary) (options : IndexOptions) :
    (∃ e, Tables.ofAutomaton a (.ofVocabulary v) (skipping options) = .error e ∧
      Tables.ofAutomaton a (.ofVocabulary v) (keeping options) = .error e) ∨
    ∃ skipped kept, Tables.ofAutomaton a (.ofVocabulary v) (skipping options) = .ok skipped ∧
      Tables.ofAutomaton a (.ofVocabulary v) (keeping options) = .ok kept ∧
      DifferInLoops v skipped kept := by
  by_cases hstart : Useful a (allEdges a (.ofVocabulary v) (skipping options)) a.start
  · refine .inr ⟨_, _, ofAutomaton_eq_ok_iff.mpr ⟨hstart, rfl⟩, ofAutomaton_eq_ok_iff.mpr ⟨?_, rfl⟩,
      differInLoops_rows⟩
    exact addsLoops_keeping.useful_iff.mpr hstart
  · refine .inl ⟨_, ofAutomaton_eq_error_iff.mpr ⟨hstart, rfl⟩, ofAutomaton_eq_error_iff.mpr ⟨?_, rfl⟩⟩
    exact fun h => hstart (addsLoops_keeping.useful_iff.mp h)

/-- The automaton for `a+` and a vocabulary with an empty token. -/
theorem ofAutomaton_differInLoops_aPlus :
    ∃ skipped kept, Tables.ofAutomaton aPlus (.ofVocabulary plainVocabulary) (skipping {}) = .ok skipped ∧
      Tables.ofAutomaton aPlus (.ofVocabulary plainVocabulary) (keeping {}) = .ok kept ∧
      DifferInLoops plainVocabulary skipped kept := by
  have hok : (Tables.ofAutomaton aPlus (.ofVocabulary plainVocabulary) (skipping {})).isOk := by cbv
  obtain ⟨tables, htables⟩ := exists_of_isOk hok
  refine (ofAutomaton_differInLoops aPlus plainVocabulary {}).resolve_left ?_
  rintro ⟨e, he, -⟩
  rw [htables] at he
  cases he

end ConstrainedDecoding.Guide
