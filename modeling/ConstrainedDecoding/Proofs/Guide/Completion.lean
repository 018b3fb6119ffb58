import ConstrainedDecoding.Proofs.Guide.Language
import Mathlib.Data.Finset.Card
import Mathlib.Data.Finset.Range

/-! Guides have no dead ends: whatever has been chosen, few allowed tokens complete a match. -/
namespace ConstrainedDecoding.Guide
open Automaton (Dfa Nfa)

variable {d : Dfa} {v : Vocabulary} {options : IndexOptions} {s s' : StateId} {g : Guide}

private def CompletesIn (d : Dfa) (v : Vocabulary) (options : IndexOptions) (s : StateId) (k : ℕ) :
    Prop :=
  ∃ ts s', ts.length = k ∧ Spells d v options s ts s' ∧ d.isAccepting s'

/-- The least number of tokens that completes a match from a state. -/
private def Distance (d : Dfa) (v : Vocabulary) (options : IndexOptions) (s : StateId) (k : ℕ) : Prop :=
  CompletesIn d v options s k ∧ ∀ m, CompletesIn d v options s m → k ≤ m

private theorem completesIn_succ {k : ℕ} : CompletesIn d v options s (k + 1) ↔
    ∃ t u, Leads d v options s t u ∧ CompletesIn d v options u k := by
  constructor
  · rintro ⟨ts, s', hk, hts, ha⟩
    cases ts with
    | nil => simp at hk
    | cons t ts =>
      obtain ⟨u, hu, hts⟩ := spells_cons.mp hts
      exact ⟨t, u, hu, ts, s', Nat.succ.inj hk, hts, ha⟩
  · rintro ⟨t, u, hu, ts, s', rfl, hts, ha⟩
    exact ⟨t :: ts, s', rfl, spells_cons.mpr ⟨u, hu, hts⟩, ha⟩

private theorem Distance.unique {k m : ℕ} (hk : Distance d v options s k)
    (hm : Distance d v options s m) : k = m :=
  le_antisymm (hk.2 m hm.1) (hm.2 k hk.1)

private theorem exists_distance (h : Live d v options s) : ∃ k, Distance d v options s k := by
  classical
  obtain ⟨ts, s', hts, ha⟩ := h.completes
  have hex : ∃ k, CompletesIn d v options s k := ⟨ts.length, ts, s', rfl, hts, ha⟩
  exact ⟨Nat.find hex, Nat.find_spec hex, fun m hm => Nat.find_min' hex hm⟩

/-- On the shortest way from a state there are states at all smaller distances. -/
private theorem Distance.exists_of_le (hd : d.WellFormed) {k m : ℕ} (hs : s < d.size)
    (hk : Distance d v options s k) (hm : m ≤ k) : ∃ u < d.size, Distance d v options u m := by
  induction k generalizing s with
  | zero =>
    obtain rfl := Nat.le_zero.mp hm
    exact ⟨s, hs, hk⟩
  | succ k ih =>
    rcases Nat.le_succ_iff.mp hm with hm | rfl
    · obtain ⟨t, u, hu, hcomplete⟩ := completesIn_succ.mp hk.1
      refine ih (hd.walk_lt hs hu.2) ⟨hcomplete, fun n hn => ?_⟩ hm
      exact Nat.le_of_succ_le_succ (hk.2 _ (completesIn_succ.mpr ⟨t, u, hu, hn⟩))
    · exact ⟨s, hs, hk⟩

/-- States at different distances are different, so a distance is less than their number. -/
private theorem Distance.lt (hd : d.WellFormed) {k : ℕ} (hs : s < d.size)
    (hk : Distance d v options s k) : k < d.size := by
  have hex : ∀ m ∈ Finset.range (k + 1), ∃ u < d.size, Distance d v options u m :=
    fun m hm => hk.exists_of_le hd hs (Nat.le_of_lt_succ (Finset.mem_range.mp hm))
  choose! f hlt hf using hex
  have hcard := Finset.card_le_card_of_injOn f (s := Finset.range (k + 1)) (t := Finset.range d.size)
    (fun m hm => Finset.mem_coe.mpr (Finset.mem_range.mpr (hlt m hm))) (fun m hm n hn heq => by
      have := hf n hn
      rw [← heq] at this
      exact (hf m hm).unique this)
  rw [Finset.card_range, Finset.card_range] at hcard
  exact hcard

def Allows (g : Guide) : StateId → List TokenId → Prop
  | _, [] => True
  | s, t :: ts => t ∈ g.allowedTokens s ∧ ∃ u, g.advance s t = .ok u ∧ g.Allows u ts

theorem IsFor.allows_iff (h : g.IsFor v options) {ts : List TokenId} :
    g.Allows s ts ↔ ∃ s', g.advanceAll s ts = .ok s' := by
  induction ts generalizing s with
  | nil => simp [Allows]
  | cons t ts ih =>
    simp only [Allows, advanceAll_cons, ih, h.mem_allowedTokens]
    constructor
    · rintro ⟨-, u, hu, s', hs'⟩
      exact ⟨s', u, hu, hs'⟩
    · rintro ⟨s', u, hu, hs'⟩
      exact ⟨⟨u, hu⟩, u, hu, s', hs'⟩

/-- Fewer tokens than there are states, the end included, bring a sequence to its end. -/
theorem IsFor.exists_completion (h : g.IsFor v options) (hs : g.Reachable s) :
    ∃ ts, ts.length ≤ g.dfa.size ∧ ts.getLast? = some v.eos ∧ g.Allows s ts := by
  have hd := h.wellFormed
  rcases h.live_or_terminal hs with hlive | rfl
  · obtain ⟨k, hk⟩ := exists_distance hlive
    obtain ⟨ts, s', rfl, hts, ha⟩ := hk.1
    refine ⟨ts ++ [v.eos], ?_, List.getLast?_concat .., h.allows_iff.mpr ⟨g.dfa.size, ?_⟩⟩
    · rw [List.length_append, List.length_singleton]
      exact hk.lt hd (hlive.lt hd)
    · exact h.ends_of_spells hlive hts ha
  · refine ⟨[v.eos], hd.start_lt, rfl, h.allows_iff.mpr ⟨g.dfa.size, ?_⟩⟩
    exact advanceAll_cons.mpr ⟨_, h.advance_terminal.mpr ⟨rfl, rfl⟩, advanceAll_nil.mpr rfl⟩

theorem IsFor.reachable_of_live (h : g.IsFor v options) (hs : Live g.dfa v options s) :
    g.Reachable s := by
  obtain ⟨ts, hts⟩ := hs.reached
  exact ⟨ts, h.advanceAll_of_spells h.live_initial hts hs⟩

theorem IsFor.reachable_terminal (h : g.IsFor v options) : g.Reachable g.dfa.size := by
  obtain ⟨ts, s, hts, ha⟩ := h.live_initial.completes
  exact ⟨ts ++ [v.eos], h.ends_of_spells h.live_initial hts ha⟩

/-- Some token is allowed exactly in the states that can be reached. -/
theorem IsFor.allowedTokens_ne_nil_iff (h : g.IsFor v options) :
    g.allowedTokens s ≠ [] ↔ g.Reachable s := by
  constructor
  · intro hne
    obtain ⟨t, ht⟩ := List.exists_mem_of_ne_nil _ hne
    obtain ⟨u, hu⟩ := h.mem_allowedTokens.mp ht
    cases h.advance_eq_ok_iff.mp hu with
    | text hs => exact h.reachable_of_live hs
    | stop hs => exact h.reachable_of_live hs
    | again => exact h.reachable_terminal
  · intro hs
    obtain ⟨ts, -, hlast, hts⟩ := h.exists_completion hs
    cases ts with
    | nil => simp at hlast
    | cons t ts => exact List.ne_nil_of_mem hts.1

theorem IsFor.mem_reachableStates (h : g.IsFor v options) :
    s ∈ g.tables.reachableStates ↔ g.Reachable s := by
  rw [Tables.reachableStates, List.mem_filter, List.mem_range, h.stateCount_eq,
    ← h.allowedTokens_ne_nil_iff, Guide.allowedTokens]
  simp only [Bool.not_eq_true', List.isEmpty_eq_false_iff]
  refine and_iff_right_of_imp fun hne => ?_
  rcases h.live_or_terminal (h.allowedTokens_ne_nil_iff.mp hne) with hs | rfl
  · exact (hs.lt h.wellFormed).trans (Nat.lt_succ_self _)
  · exact Nat.lt_succ_self _

theorem live_start_iff (options : IndexOptions) : Live d v options Dfa.start ↔
    ∃ ts, (∀ t ∈ ts, v.IsText t) ∧ d.accepts (v.decode ts) := by
  constructor
  · rintro ⟨-, ts, s', hts, ha⟩
    exact ⟨ts, fun t ht => (hts.1 t ht).1, Dfa.accepts_iff.mpr ⟨s', hts.2, ha⟩⟩
  · rintro ⟨ts, hts, hacc⟩
    have hfilter : v.decode (ts.filter fun t => v.bytes t ≠ []) = v.decode ts :=
      Vocabulary.decode_filter (by simp)
    rw [← hfilter] at hacc
    obtain ⟨s', hs', ha⟩ := Dfa.accepts_iff.mp hacc
    refine ⟨⟨[], spells_nil.mpr rfl⟩, _, s', ⟨fun t ht => ?_, hs'⟩, ha⟩
    obtain ⟨ht, hne⟩ := List.mem_filter.mp ht
    exact ⟨hts t ht, fun _ => by simpa using hne⟩

/-- An automaton has no guide for a vocabulary, because no tokens complete a match, exactly if none
do. -/
theorem ofDfa_eq_error_iff (hd : d.WellFormed) (pattern : String) :
    (∃ e, Guide.ofDfa pattern d (.ofVocabulary v) options = .error e ∧
      e.kind = .unsatisfiablePattern) ↔ ¬ Live d v options Dfa.start := by
  rw [← exists_ofDfa_iff hd pattern]
  simp only [Guide.ofDfa, Tables.ofAutomaton]
  split
  · simp [bind, Except.bind, pure, Except.pure]
  · simp [bind, Except.bind, Error.kind]

/-- There are no dead ends. In every state that a guide can come to, at most as many allowed tokens as
there are states bring the sequence to its end, and these are the states that the guide lists; and only
if no text tokens spell a string that the automaton accepts is there no guide. -/
theorem no_dead_ends (settings : Settings) (pattern : String) (v : Vocabulary) :
    (∀ g, Guide.ofPattern settings pattern (.ofVocabulary v) = .ok g →
      (∀ s, g.Reachable s → g.allowedTokens s ≠ [] ∧
        ∃ ts, ts.length ≤ g.tables.stateCount ∧ ts.getLast? = some g.eos ∧ g.Allows s ts) ∧
      (∀ s, s ∈ g.tables.reachableStates ↔ g.Reachable s) ∧
      g.terminal ∈ g.tables.reachableStates) ∧
    ∀ d, Automaton.compile settings.compile pattern = .ok d →
      ((∃ e, Guide.ofPattern settings pattern (.ofVocabulary v) = .error e ∧
        e.kind = .unsatisfiablePattern) ↔
          ¬ ∃ ts, (∀ t ∈ ts, v.IsText t) ∧ d.accepts (v.decode ts)) := by
  constructor
  · intro g hg
    have hfor := (ofPattern_eq_ok hg).2
    refine ⟨fun s hs => ⟨hfor.allowedTokens_ne_nil_iff.mpr hs, ?_⟩, fun s => hfor.mem_reachableStates, ?_⟩
    · obtain ⟨ts, hlen, hlast, hts⟩ := hfor.exists_completion hs
      refine ⟨ts, ?_, hfor.eos_eq ▸ hlast, hts⟩
      rw [hfor.stateCount_eq]
      exact hlen.trans (Nat.le_succ _)
    · rw [hfor.terminal_eq]
      exact hfor.mem_reachableStates.mpr hfor.reachable_terminal
  · intro d hcompile
    have hd : d.WellFormed := by
      simp only [Automaton.compile, bind_eq_ok_iff] at hcompile
      obtain ⟨nfa, -, hd⟩ := hcompile
      exact Dfa.wellFormed_ofNfa hd
    rw [← live_start_iff settings.index, ← ofDfa_eq_error_iff hd pattern,
      Guide.ofPattern, hcompile]
    rfl

def aVocabulary : Vocabulary where
  entries := #[{ kind := .text, bytes := [97] }, { kind := .endOfSequence }]
  eos := 1
  eosIds_entries := by decide

theorem no_dead_ends_ab :
    (∃ g, Guide.ofPattern {} "ab" (.ofVocabulary abVocabulary) = .ok g ∧ g.Reachable g.initial ∧
      ∃ ts, ts.length ≤ g.tables.stateCount ∧ ts.getLast? = some g.eos ∧ g.Allows g.initial ts) ∧
    ∃ d, Automaton.compile {} "ab" = .ok d ∧
      ((∃ e, Guide.ofPattern {} "ab" (.ofVocabulary aVocabulary) = .error e ∧
        e.kind = .unsatisfiablePattern) ↔
          ¬ ∃ ts, (∀ t ∈ ts, aVocabulary.IsText t) ∧ d.accepts (aVocabulary.decode ts)) := by
  obtain ⟨g, hg⟩ := ofPattern_ab
  have hinitial : g.Reachable g.initial := ⟨[], advanceAll_nil.mpr rfl⟩
  have hcompile := (ofPattern_eq_ok hg).1
  exact ⟨⟨g, hg, hinitial, (((no_dead_ends {} "ab" abVocabulary).1 g hg).1 _ hinitial).2⟩,
    g.dfa, hcompile, (no_dead_ends {} "ab" aVocabulary).2 g.dfa hcompile⟩

end ConstrainedDecoding.Guide
