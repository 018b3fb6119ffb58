import ConstrainedDecoding.Proofs.Guide.Live

/-! The rows that the tables of an automaton are made of, and what the tables say of their edges. -/
namespace ConstrainedDecoding.Guide
open Automaton (ByteAutomaton)

variable {a : ByteAutomaton} {v : Vocabulary} {options : IndexOptions} {s s' : StateId} {t : TokenId}

/-- The rows of the tables, one for each state of the automaton and one for the terminal state. -/
def rows (a : ByteAutomaton) (v : Vocabulary) (options : IndexOptions) : Array Edges :=
  let edges := allEdges a (.ofVocabulary v) options
  (edges.mapIdx (prune (liveStates a edges) v.eos a.size)).push [(v.eos, a.size)]

theorem ofAutomaton_eq_ok_iff {tables : Tables} :
    Tables.ofAutomaton a (.ofVocabulary v) options = .ok tables ↔
      Useful a (allEdges a (.ofVocabulary v) options) a.start ∧ tables = .ofRows (rows a v options) := by
  rw [← contains_liveStates_iff, Tables.ofAutomaton]
  split
  · rename_i hstart
    rw [Except.ok.injEq, and_iff_right hstart, eq_comm]
    rfl
  · simp_all

theorem ofAutomaton_eq_error_iff {e : Error} :
    Tables.ofAutomaton a (.ofVocabulary v) options = .error e ↔
      ¬ Useful a (allEdges a (.ofVocabulary v) options) a.start ∧ e = .noTokenSequence v.size := by
  rw [← contains_liveStates_iff, Tables.ofAutomaton]
  split
  · simp_all
  · rename_i hstart
    rw [Except.error.injEq, and_iff_right hstart, eq_comm]
    rfl

theorem size_rows : (rows a v options).size = a.size + 1 := by
  simp [rows, size_allEdges]

private theorem getD_rows (hs : s < a.size) : (rows a v options).getD s [] =
    prune (liveStates a (allEdges a (.ofVocabulary v) options)) v.eos a.size s
      ((allEdges a (.ofVocabulary v) options).getD s []) := by
  simp [rows, Array.getD_eq_getD_getElem?, Array.getElem?_push, size_allEdges, hs, hs.ne]

theorem getD_rows_size : (rows a v options).getD a.size [] = [(v.eos, a.size)] := by
  rw [Array.getD_eq_getD_getElem?, rows, Array.getElem?_push]
  simp [size_allEdges]

private theorem getD_rows_of_lt (hs : a.size < s) : (rows a v options).getD s [] = [] := by
  rw [Array.getD_eq_getD_getElem?, Array.getElem?_eq_none (by rw [size_rows]; exact hs)]
  rfl

theorem mem_prune {live : Marks} {eos : TokenId} {terminal : StateId} {row : Edges} :
    (t, s') ∈ prune live eos terminal s row ↔ live.contains s ∧
      ∃ u, (t, u) ∈ row ∧ live.contains u ∧ s' = if t = eos then terminal else u := by
  unfold prune
  split
  · rename_i hs
    simp only [List.mem_map, List.mem_filter, Prod.exists, Prod.mk.injEq, and_iff_right hs]
    constructor
    · rintro ⟨t', u, ⟨hrow, hu⟩, rfl, rfl⟩
      exact ⟨u, hrow, hu, rfl⟩
    · rintro ⟨u, hrow, hu, rfl⟩
      exact ⟨t, u, ⟨hrow, hu⟩, rfl, rfl⟩
  · simp_all

/-- The edges in the tables: those between useful states, with the end of the sequence leading to the
terminal state, and from there back. -/
theorem mem_rows_iff : (t, s') ∈ (rows a v options).getD s [] ↔
    (Useful a (allEdges a (.ofVocabulary v) options) s ∧
      ∃ u, (t, u) ∈ (allEdges a (.ofVocabulary v) options).getD s [] ∧
        Useful a (allEdges a (.ofVocabulary v) options) u ∧ s' = if t = v.eos then a.size else u) ∨
    s = a.size ∧ t = v.eos ∧ s' = a.size := by
  have hnot (h : a.size ≤ s) : ¬ Useful a (allEdges a (.ofVocabulary v) options) s :=
    fun hs => absurd hs.lt h.not_gt
  rcases Nat.lt_trichotomy s a.size with hs | rfl | hs
  · rw [getD_rows hs, mem_prune, or_iff_left fun h => hs.ne h.1]
    simp only [contains_liveStates_iff]
  · rw [getD_rows_size, List.mem_singleton, Prod.mk.injEq, or_iff_right fun h => hnot le_rfl h.1,
      and_iff_right rfl]
  · rw [getD_rows_of_lt hs]
    simp [hnot hs.le, hs.ne']

/-- A state of the automaton has edges in the tables exactly if it is useful. -/
theorem exists_mem_rows_iff : (∃ t s', (t, s') ∈ (rows a v options).getD s []) ↔
    Useful a (allEdges a (.ofVocabulary v) options) s ∨ s = a.size := by
  constructor
  · rintro ⟨t, s', h⟩
    exact (mem_rows_iff.mp h).imp And.left And.left
  · rintro (h | rfl)
    · have ⟨hs, hreach, u, hu, hacc, hpath⟩ := h
      -- the state accepts, or the first edge of its path to a match remains
      rcases hpath.cases_head with rfl | ⟨w, hw, hpath⟩
      · have hstop : (v.eos, s) ∈ (allEdges a (.ofVocabulary v) options).getD s [] :=
          mem_allEdges_iff.mpr ⟨hs, .inr (.inr ⟨rfl, hacc, rfl⟩)⟩
        exact ⟨_, _, mem_rows_iff.mpr (.inl ⟨h, s, hstop, h, rfl⟩)⟩
      · obtain ⟨t, ht⟩ := hw.2.2
        have hw' : Useful a (allEdges a (.ofVocabulary v) options) w :=
          ⟨hw.2.1, hreach.tail hw, u, hu, hacc, hpath⟩
        exact ⟨_, _, mem_rows_iff.mpr (.inl ⟨h, w, ht, hw', rfl⟩)⟩
    · exact ⟨_, _, mem_rows_iff.mpr (.inr ⟨rfl, rfl, rfl⟩)⟩

theorem pairwise_rows : ((rows a v options).getD s []).Pairwise (·.1 < ·.1) := by
  rcases Nat.lt_trichotomy s a.size with hs | rfl | hs
  · rw [getD_rows hs, prune]
    split
    · exact List.pairwise_map.mpr (pairwise_allEdges.filter _)
    · exact .nil
  · rw [getD_rows_size]
    exact List.pairwise_singleton _ _
  · rw [getD_rows_of_lt hs]
    exact .nil

theorem pairwise_of_mem_rows {row : Edges} (hrow : row ∈ rows a v options) : row.Pairwise (·.1 < ·.1) := by
  obtain ⟨s, hs, rfl⟩ := Array.mem_iff_getElem.mp hrow
  have hpairwise : ((rows a v options).getD s []).Pairwise (·.1 < ·.1) := pairwise_rows
  rwa [Array.getD_eq_getD_getElem?, Array.getElem?_eq_getElem hs, Option.getD_some] at hpairwise

private theorem getElem?_foldl_insert {row : Edges} (h : row.Pairwise (·.1 < ·.1)) :
    (row.foldl (fun m (token, next) => m.insert token next) (∅ : Std.HashMap TokenId StateId))[t]? =
      some s ↔ (t, s) ∈ row := by
  induction row using List.reverseRecOn with
  | nil => simp
  | append_singleton row p ih =>
    obtain ⟨u, s'⟩ := p
    obtain ⟨hrow, -, hlt⟩ := List.pairwise_append.mp h
    rw [List.foldl_append, List.foldl_cons, List.foldl_nil, Std.HashMap.getElem?_insert,
      List.mem_append, List.mem_singleton, Prod.mk.injEq]
    by_cases hu : u = t
    · subst hu
      have hnot : (u, s) ∉ row := fun hmem => (hlt _ hmem _ (List.mem_singleton_self _)).false
      simp [hnot, eq_comm]
    · simp [hu, Ne.symm hu, ih hrow]

theorem next?_ofRows {rows : Array Edges} (h : ∀ row ∈ rows, row.Pairwise (·.1 < ·.1)) :
    (Tables.ofRows rows).next? s t = some s' ↔ (t, s') ∈ rows.getD s [] := by
  rw [Array.getD_eq_getD_getElem?]
  cases hs : rows[s]? with
  | none => simp [Tables.next?, Tables.ofRows, hs]
  | some row =>
    have hrow := getElem?_foldl_insert (t := t) (s := s') (h row (Array.mem_of_getElem? hs))
    simpa [Tables.next?, Tables.ofRows, hs] using hrow

theorem allowedTokens_ofRows (rows : Array Edges) (s : StateId) :
    (Tables.ofRows rows).allowedTokens s = (rows.getD s []).map (·.1) := by
  simp only [Tables.allowedTokens, Tables.ofRows, Array.getD_eq_getD_getElem?, Array.getElem?_map]
  cases rows[s]? <;> rfl

theorem mem_allowedTokens_ofRows {rows : Array Edges} :
    t ∈ (Tables.ofRows rows).allowedTokens s ↔ ∃ s', (t, s') ∈ rows.getD s [] := by
  simp [allowedTokens_ofRows]

theorem stateCount_ofRows : (Tables.ofRows (rows a v options)).stateCount = a.size + 1 := by
  rw [Tables.stateCount, Tables.ofRows, Array.size_map, size_rows]

theorem terminal_ofRows : (Tables.ofRows (rows a v options)).terminal = a.size := by
  rw [Tables.terminal, stateCount_ofRows, Nat.add_sub_cancel]

theorem allowedTokens_ofRows_eq_nil_iff : (Tables.ofRows (rows a v options)).allowedTokens s = [] ↔
    ¬ (Useful a (allEdges a (.ofVocabulary v) options) s ∨ s = a.size) := by
  rw [← exists_mem_rows_iff, List.eq_nil_iff_forall_not_mem]
  simp only [mem_allowedTokens_ofRows, not_exists]

end ConstrainedDecoding.Guide
