import ConstrainedDecoding.Proofs.Guide.Edges

/-! Live states: those that some tokens lead to from the start, and from which some tokens complete a
match. -/
namespace ConstrainedDecoding.Guide
open Automaton (ByteAutomaton Dfa)
open Relation (ReflTransGen)

variable {d : Dfa} {v : Vocabulary} {options : IndexOptions} {s s' : StateId}

/-- Tokens that may be chosen for their text lead from a state to another, one after the other. -/
def Spells (d : Dfa) (v : Vocabulary) (options : IndexOptions) (s : StateId) (ts : List TokenId)
    (s' : StateId) : Prop :=
  (∀ t ∈ ts, options.Uses v t) ∧ d.walk? s (v.decode ts) = some s'

theorem spells_nil : Spells d v options s [] s' ↔ s = s' := by
  simp [Spells, Vocabulary.decode, Dfa.walk?]

theorem spells_cons {t : TokenId} {ts : List TokenId} :
    Spells d v options s (t :: ts) s' ↔
      ∃ u, Leads d v options s t u ∧ Spells d v options u ts s' := by
  have hdecode : v.decode (t :: ts) = v.bytes t ++ v.decode ts := rfl
  rw [Spells, hdecode, Dfa.walk?_append, Option.bind_eq_some_iff, List.forall_mem_cons]
  constructor
  · rintro ⟨⟨ht, hts⟩, u, hu, hwalk⟩
    exact ⟨u, ⟨ht, hu⟩, hts, hwalk⟩
  · rintro ⟨u, ⟨ht, hu⟩, hts, hwalk⟩
    exact ⟨⟨ht, hts⟩, u, hu, hwalk⟩

theorem Spells.append {ts us : List TokenId} {u : StateId} (h : Spells d v options s ts u)
    (h' : Spells d v options u us s') : Spells d v options s (ts ++ us) s' := by
  induction ts generalizing s with
  | nil =>
    obtain rfl := spells_nil.mp h
    exact h'
  | cons t ts ih =>
    obtain ⟨w, hw, h⟩ := spells_cons.mp h
    exact spells_cons.mpr ⟨w, hw, ih h⟩

/-- Tokens lead to a state from the start, and from it to an accepting state. -/
structure Live (d : Dfa) (v : Vocabulary) (options : IndexOptions) (s : StateId) : Prop where
  reached : ∃ ts, Spells d v options Dfa.start ts s
  completes : ∃ ts s', Spells d v options s ts s' ∧ d.isAccepting s'

def Connects (n : ℕ) (edges : Array Edges) (s s' : StateId) : Prop :=
  s < n ∧ s' < n ∧ ∃ t, (t, s') ∈ edges.getD s []

/-- Edges lead to a state from the start of an automaton, and from it to an accepting state. -/
structure Useful (a : ByteAutomaton) (edges : Array Edges) (s : StateId) : Prop where
  lt : s < a.size
  reached : ReflTransGen (Connects a.size edges) a.start s
  completes : ∃ s' < a.size, a.isAccepting s' ∧ ReflTransGen (Connects a.size edges) s s'

private def targets (edges : Array Edges) (s : StateId) : List StateId := (edges.getD s []).map (·.2)

private theorem connects_iff {n : ℕ} {edges : Array Edges} :
    Connects n edges s s' ↔ s < n ∧ Edge n (targets edges) s s' := by
  simp [Connects, Edge, targets, and_comm]

private theorem path_connects_iff {n : ℕ} {edges : Array Edges} (hs : s < n) :
    ReflTransGen (Connects n edges) s s' ↔ ReflTransGen (Edge n (targets edges)) s s' := by
  constructor
  · exact fun h => h.lift id fun i j hij => (connects_iff.mp hij).2
  · intro h
    induction h using ReflTransGen.head_induction_on with
    | refl => exact .refl
    | head he _ ih => exact (ih he.2).head (connects_iff.mpr ⟨hs, he⟩)

private theorem reached_iff {n start : ℕ} {edges : Array Edges} :
    Reached n (targets edges) [start] s ↔ s < n ∧ ReflTransGen (Connects n edges) start s := by
  constructor
  · intro h
    refine ⟨h.lt, ?_⟩
    obtain ⟨i, hi, hn, hpath⟩ := h
    obtain rfl := List.mem_singleton.mp hi
    exact (path_connects_iff hn).mpr hpath
  · rintro ⟨hs, hpath⟩
    have hstart : start < n := by
      rcases hpath.cases_head with rfl | ⟨u, hu, -⟩
      · exact hs
      · exact hu.1
    exact ⟨start, List.mem_singleton_self start, hstart, (path_connects_iff hstart).mp hpath⟩

/-- The edges of found states, without those that stay. -/
private def others (found : ℕ → Bool) (succ : ℕ → List ℕ) (i : ℕ) : List ℕ :=
  if found i then (succ i).filter (· ≠ i) else []

private theorem mem_others {found : ℕ → Bool} {succ : ℕ → List ℕ} {i j : ℕ} :
    j ∈ others found succ i ↔ found i ∧ j ∈ succ i ∧ j ≠ i := by
  unfold others
  split <;> simp_all

/-- Without these edges the same found states are reached. -/
private theorem path_others_iff {n : ℕ} {succ : ℕ → List ℕ} {found : ℕ → Bool}
    (hfound : ∀ i, found i → ∀ j ∈ succ i, j < n → found j) {i t : ℕ} (ht : found t) :
    ReflTransGen (Edge n (others found succ)) i t ↔ found i ∧ ReflTransGen (Edge n succ) i t := by
  constructor
  · intro h
    induction h using ReflTransGen.head_induction_on with
    | refl => exact ⟨ht, .refl⟩
    | head he _ ih =>
      obtain ⟨hi, hj, -⟩ := mem_others.mp he.1
      exact ⟨hi, ih.2.head ⟨hj, he.2⟩⟩
  · rintro ⟨hi, h⟩
    induction h using ReflTransGen.head_induction_on with
    | refl => exact .refl
    | @head i j he _ ih =>
      have hrest := ih (hfound i hi j he.1 he.2)
      by_cases hij : j = i
      · exact hij ▸ hrest
      · exact hrest.head ⟨mem_others.mpr ⟨hi, he.1, hij⟩, he.2⟩

/-- The two searches find the states on the way from the start to an accepting state, whatever the
edges are. -/
theorem contains_liveStates_iff {a : ByteAutomaton} {edges : Array Edges} :
    (liveStates a edges).contains s ↔ Useful a edges s := by
  let found := reachable a.size (targets edges) [a.start]
  have hreached (s : ℕ) : found.contains s ↔ Reached a.size (targets edges) [a.start] s :=
    contains_reachable a.size _ _ s
  have hfound : ∀ i, found.contains i → ∀ j ∈ targets edges i, j < a.size → found.contains j :=
    fun i hi j hj hn => (hreached j).mpr (((hreached i).mp hi).step hj hn)
  have haccepting (t : ℕ) : t ∈ a.acceptingStates.filter found.contains ∧ t < a.size ↔
      t < a.size ∧ a.isAccepting t ∧ found.contains t := by
    rw [List.mem_filter, ByteAutomaton.acceptingStates, List.mem_filter, List.mem_range]
    tauto
  change (reachable a.size (fun j => (predecessors a.size
    (others found.contains (targets edges))).getD j [])
      (a.acceptingStates.filter found.contains)).contains s ↔ _
  rw [contains_reachable_predecessors]
  constructor
  · rintro ⟨hs, t, ht, hlt, hpath⟩
    obtain ⟨-, hacc, hft⟩ := (haccepting t).mp ⟨ht, hlt⟩
    obtain ⟨hfs, hpath⟩ := (path_others_iff hfound hft).mp hpath
    exact ⟨hs, (reached_iff.mp ((hreached s).mp hfs)).2, t, hlt, hacc, (path_connects_iff hs).mpr hpath⟩
  · rintro ⟨hs, hreach, t, hlt, hacc, hpath⟩
    have hfs := (hreached s).mpr (reached_iff.mpr ⟨hs, hreach⟩)
    have hft := (hreached t).mpr (reached_iff.mpr ⟨hlt, hreach.trans hpath⟩)
    refine ⟨hs, t, ((haccepting t).mpr ⟨hlt, hacc, hft⟩).1, hlt, ?_⟩
    exact (path_others_iff hfound hft).mpr ⟨hfs, (path_connects_iff hs).mp hpath⟩

/-- Edges lead where tokens lead; the end of the sequence leads nowhere else. -/
private theorem path_iff_spells (hd : d.WellFormed) (hs : s < d.size) :
    ReflTransGen (Connects d.size (allEdges d (.ofVocabulary v) options)) s s' ↔
      ∃ ts, Spells d v options s ts s' := by
  have hconnects (i j : StateId) : Connects d.size (allEdges d (.ofVocabulary v) options) i j ↔
      i < d.size ∧ j < d.size ∧ ((∃ t, Leads d v options i t j) ∨ d.isAccepting i ∧ j = i) := by
    simp only [Connects, mem_allEdges d.rowsDecide, Dfa.toByteAutomaton_size,
      Dfa.toByteAutomaton_isAccepting, exists_and_left, exists_or, exists_eq_left]
    tauto
  constructor
  · intro h
    induction h with
    | refl => exact ⟨[], spells_nil.mpr rfl⟩
    | tail _ he ih =>
      obtain ⟨ts, hts⟩ := ih
      obtain ⟨-, -, ⟨t, ht⟩ | ⟨-, rfl⟩⟩ := (hconnects _ _).mp he
      · exact ⟨ts ++ [t], hts.append (spells_cons.mpr ⟨_, ht, spells_nil.mpr rfl⟩)⟩
      · exact ⟨ts, hts⟩
  · rintro ⟨ts, hts⟩
    induction ts generalizing s with
    | nil => exact spells_nil.mp hts ▸ .refl
    | cons t ts ih =>
      obtain ⟨u, hu, hts⟩ := spells_cons.mp hts
      have hlt := hd.walk_lt hs hu.2
      exact (ih hlt hts).head ((hconnects _ _).mpr ⟨hs, hlt, .inl ⟨t, hu⟩⟩)

theorem useful_iff_live (hd : d.WellFormed) :
    Useful d (allEdges d (.ofVocabulary v) options) s ↔ Live d v options s := by
  constructor
  · rintro ⟨hs, hreach, t, -, hacc, hpath⟩
    obtain ⟨ts, hts⟩ := (path_iff_spells hd hs).mp hpath
    exact ⟨(path_iff_spells hd hd.start_lt).mp hreach, ts, t, hts, hacc⟩
  · rintro ⟨⟨us, hus⟩, ts, t, hts, hacc⟩
    have hs := hd.walk_lt hd.start_lt hus.2
    exact ⟨hs, (path_iff_spells hd hd.start_lt).mpr ⟨us, hus⟩, t, Dfa.lt_of_isAccepting hacc, hacc,
      (path_iff_spells hd hs).mpr ⟨ts, hts⟩⟩

end ConstrainedDecoding.Guide
