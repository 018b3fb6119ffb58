import ConstrainedDecoding.Guide.Basic
import ConstrainedDecoding.Proofs.Automaton.Compile
import ConstrainedDecoding.Proofs.Guide.Rows

/-! What a guide does with one token, in terms of its automaton and its vocabulary. -/
namespace ConstrainedDecoding.Guide
open Automaton (Dfa Nfa)

/-- The step of a guide: text leads from live states to live states, and the end of the sequence from
accepting states, and from the terminal one, to the terminal one. -/
inductive Step (d : Dfa) (v : Vocabulary) (options : IndexOptions) : StateId → TokenId → StateId → Prop
  | text {s s' : StateId} {t : TokenId} (hs : Live d v options s) (ht : Leads d v options s t s')
      (hs' : Live d v options s') : Step d v options s t s'
  | stop {s : StateId} (hs : Live d v options s) (ha : d.isAccepting s) :
      Step d v options s v.eos d.size
  | again : Step d v options d.size v.eos d.size

variable {d : Dfa} {v : Vocabulary} {options : IndexOptions} {s s' s'' : StateId} {t : TokenId}

theorem Live.lt (h : Live d v options s) (hd : d.WellFormed) : s < d.size := by
  obtain ⟨ts, hts⟩ := h.reached
  exact hd.walk_lt hd.start_lt hts.2

theorem Step.of_eos (h : Step d v options s v.eos s') : s' = d.size := by
  cases h with
  | text _ ht => exact absurd rfl (Vocabulary.ne_eos_of_isText ht.1.1)
  | stop => rfl
  | again => rfl

theorem Step.of_ne_eos (h : Step d v options s t s') (ht : t ≠ v.eos) :
    Live d v options s ∧ Leads d v options s t s' ∧ Live d v options s' := by
  cases h with
  | text hs hl hs' => exact ⟨hs, hl, hs'⟩
  | stop => exact absurd rfl ht
  | again => exact absurd rfl ht

theorem Step.unique (h : Step d v options s t s') (h' : Step d v options s t s'') : s' = s'' := by
  by_cases ht : t = v.eos
  · subst ht
    rw [h.of_eos, h'.of_eos]
  · have hl := (h.of_ne_eos ht).2.1.2
    have hl' := (h'.of_ne_eos ht).2.1.2
    exact Option.some.inj (hl.symm.trans hl')

/-- The edges in the tables of a guide are its steps. -/
private theorem mem_rows (hd : d.WellFormed) :
    (t, s') ∈ (rows d v options).getD s [] ↔ Step d v options s t s' := by
  rw [mem_rows_iff]
  simp only [useful_iff_live hd, mem_allEdges d.rowsDecide, Dfa.toByteAutomaton_size,
    Dfa.toByteAutomaton_isAccepting]
  constructor
  · rintro (⟨hlive, u, ⟨-, ht | ⟨rfl, ha, rfl⟩⟩, hu, rfl⟩ | ⟨rfl, rfl, rfl⟩)
    · rw [if_neg (Vocabulary.ne_eos_of_isText ht.1.1)]
      exact .text hlive ht hu
    · rw [if_pos rfl]
      exact .stop hlive ha
    · exact .again
  · intro h
    cases h with
    | text hlive ht hs' =>
      have heos : t ≠ v.eos := Vocabulary.ne_eos_of_isText ht.1.1
      exact .inl ⟨hlive, s', ⟨hlive.lt hd, .inl ht⟩, hs', (if_neg heos).symm⟩
    | stop hlive ha =>
      exact .inl ⟨hlive, s, ⟨hlive.lt hd, .inr ⟨rfl, ha, rfl⟩⟩, hlive, (if_pos rfl).symm⟩
    | again => exact .inr ⟨rfl, rfl, rfl⟩

theorem ofDfa_eq_ok {pattern : String} {g : Guide}
    (h : Guide.ofDfa pattern d (.ofVocabulary v) options = .ok g) (hd : d.WellFormed) :
    Live d v options Dfa.start ∧ g.dfa = d ∧ g.eos = v.eos ∧
      g.tables = Tables.ofRows (rows d v options) := by
  simp only [Guide.ofDfa, bind_eq_ok_iff, pure_eq_ok_iff, ofAutomaton_eq_ok_iff, useful_iff_live hd] at h
  obtain ⟨tables, ⟨hstart, rfl⟩, rfl⟩ := h
  exact ⟨hstart, rfl, rfl, rfl⟩

/-- There is a guide if some tokens complete a match from the start. -/
theorem exists_ofDfa_iff (hd : d.WellFormed) (pattern : String) :
    (∃ g, Guide.ofDfa pattern d (.ofVocabulary v) options = .ok g) ↔ Live d v options Dfa.start := by
  simp only [Guide.ofDfa, bind_eq_ok_iff, pure_eq_ok_iff, ofAutomaton_eq_ok_iff, useful_iff_live hd]
  constructor
  · rintro ⟨_, _, ⟨hlive, -⟩, -⟩
    exact hlive
  · exact fun hlive => ⟨_, _, ⟨hlive, rfl⟩, rfl⟩

/-- The guide was made from a compiled automaton for a vocabulary. -/
def IsFor (g : Guide) (v : Vocabulary) (options : IndexOptions) : Prop :=
  ∃ limits nfa, Dfa.ofNfa limits nfa = .ok g.dfa ∧
    Guide.ofDfa g.pattern g.dfa (.ofVocabulary v) options = .ok g

theorem isFor_of_ofDfa {limits : CompileLimits} {nfa : Nfa} {pattern : String} {g : Guide}
    (hd : Dfa.ofNfa limits nfa = .ok d) (h : Guide.ofDfa pattern d (.ofVocabulary v) options = .ok g) :
    g.IsFor v options := by
  have hg := h
  simp only [Guide.ofDfa, bind_eq_ok_iff, pure_eq_ok_iff] at hg
  obtain ⟨tables, -, rfl⟩ := hg
  exact ⟨limits, nfa, hd, h⟩

namespace IsFor

variable {g : Guide}

theorem wellFormed (h : g.IsFor v options) : g.dfa.WellFormed := by
  obtain ⟨limits, nfa, hd, -⟩ := h
  exact Dfa.wellFormed_ofNfa hd

theorem live_initial (h : g.IsFor v options) : Live g.dfa v options g.initial := by
  have hd := h.wellFormed
  obtain ⟨limits, nfa, -, hg⟩ := h
  exact (ofDfa_eq_ok hg hd).1

theorem tables_eq (h : g.IsFor v options) : g.tables = Tables.ofRows (rows g.dfa v options) := by
  have hd := h.wellFormed
  obtain ⟨limits, nfa, -, hg⟩ := h
  exact (ofDfa_eq_ok hg hd).2.2.2

theorem stateCount_eq (h : g.IsFor v options) : g.tables.stateCount = g.dfa.size + 1 := by
  rw [h.tables_eq, stateCount_ofRows, Dfa.toByteAutomaton_size]

theorem terminal_eq (h : g.IsFor v options) : g.terminal = g.dfa.size := by
  rw [Guide.terminal, h.tables_eq, terminal_ofRows, Dfa.toByteAutomaton_size]

theorem eos_eq (h : g.IsFor v options) : g.eos = v.eos := by
  have hd := h.wellFormed
  obtain ⟨limits, nfa, -, hg⟩ := h
  exact (ofDfa_eq_ok hg hd).2.2.1

theorem advance_eq_ok_iff (h : g.IsFor v options) :
    g.advance s t = .ok s' ↔ Step g.dfa v options s t s' := by
  rw [← mem_rows h.wellFormed, ← next?_ofRows fun _ => pairwise_of_mem_rows, ← h.tables_eq, Guide.advance]
  cases g.tables.next? s t <;> simp

theorem mem_allowedTokens (h : g.IsFor v options) :
    t ∈ g.allowedTokens s ↔ ∃ s', g.advance s t = .ok s' := by
  simp only [h.advance_eq_ok_iff, ← mem_rows h.wellFormed]
  rw [Guide.allowedTokens, h.tables_eq, mem_allowedTokens_ofRows]

/-- Only text and the end of the sequence are ever allowed. -/
theorem entry_of_mem_allowedTokens (h : g.IsFor v options) (ht : t ∈ g.allowedTokens s) :
    ∃ e, v.entry? t = some e ∧ e.kind ≠ .special := by
  obtain ⟨s', hs'⟩ := h.mem_allowedTokens.mp ht
  by_cases heos : t = v.eos
  · obtain ⟨e, he, hkind⟩ := Vocabulary.eq_eos_iff.mp heos
    exact ⟨e, he, by rw [hkind]; simp⟩
  · obtain ⟨bytes, he⟩ := ((h.advance_eq_ok_iff.mp hs').of_ne_eos heos).2.1.1.1
    exact ⟨_, he, by simp⟩

/-- The tables of a guide are made of rows that are sorted by their tokens. -/
theorem exists_rows (h : g.IsFor v options) :
    ∃ rows : Array Edges, g.tables = Tables.ofRows rows ∧ ∀ row ∈ rows, row.Pairwise (·.1 < ·.1) :=
  ⟨rows g.dfa v options, h.tables_eq, fun _ => pairwise_of_mem_rows⟩

theorem pairwise_allowedTokens (h : g.IsFor v options) (s : StateId) :
    (g.allowedTokens s).Pairwise (· < ·) := by
  rw [Guide.allowedTokens, h.tables_eq, allowedTokens_ofRows]
  exact List.pairwise_map.mpr pairwise_rows

end IsFor

end ConstrainedDecoding.Guide
