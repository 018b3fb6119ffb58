import ConstrainedDecoding.Automaton.Subset
import ConstrainedDecoding.Proofs.Automaton.Run
import ConstrainedDecoding.Proofs.Automaton.Search
import Mathlib.Data.List.Sort

/-! Closures. A set that closes some seeds accepts what the seeds accept: of the places that are reached
without a byte, only the consuming ones before an end anchor and the accepting ones matter. -/
namespace ConstrainedDecoding.Automaton

/-- The moves that a state allows without a byte, and whether an end anchor has been crossed after
them. -/
def NfaState.Silent (atStart afterEnd : Bool) : NfaState → StateId → Bool → Prop
  | .epsilon next, t, e => t = next ∧ e = afterEnd
  | .union alternatives, t, e => t ∈ alternatives ∧ e = afterEnd
  | .anchor .start next, t, e => atStart ∧ t = next ∧ e = afterEnd
  | .anchor .stop next, t, e => t = next ∧ e = true
  | .range _ _ _, _, _ => False
  | .accept, _, _ => False

namespace Nfa

variable {nfa : Nfa} {w : List UInt8} {atStart : Bool}

theorem place_div (s : ℕ) (e : Bool) : place s e / 2 = s := by
  unfold place
  cases e with
  | false => simp
  | true => exact Nat.mul_add_div (by decide) s 1

theorem place_mod (s : ℕ) (e : Bool) : place s e % 2 = e.toNat := by
  unfold place
  cases e <;> simp +arith

theorem place_inj {s t : ℕ} {e e' : Bool} : place s e = place t e' ↔ s = t ∧ e = e' := by
  constructor
  · intro h
    have hmod := congrArg (· % 2) h
    simp only [place_mod] at hmod
    exact ⟨by rw [← place_div s e, h, place_div], by cases e <;> cases e' <;> simp_all⟩
  · rintro ⟨rfl, rfl⟩
    rfl

theorem place_lt {s n : ℕ} {e : Bool} : place s e < 2 * n ↔ s < n := by
  unfold place
  have := e.toNat_lt
  omega

theorem exists_place (p : ℕ) : ∃ s e, p = place s e := by
  refine ⟨p / 2, p % 2 == 1, ?_⟩
  unfold place
  rcases Nat.mod_two_eq_zero_or_one p with h | h <;> simp [h] <;> omega

theorem mem_silentMoves {s : ℕ} {e : Bool} {p : ℕ} :
    p ∈ nfa.silentMoves atStart (place s e) ↔
      ∃ q, nfa.states[s]? = some q ∧ ∃ t e', q.Silent atStart e t e' ∧ p = place t e' := by
  have he : (e.toNat == 1) = e := by cases e <;> rfl
  simp only [silentMoves, place_div, place_mod, he]
  cases hs : nfa.states[s]? with
  | none => simp
  | some q =>
    simp only [Option.some.injEq, exists_eq_left']
    cases q with
    | range | accept => simp [NfaState.Silent]
    | epsilon | union => cases e <;> simp [NfaState.Silent, eq_comm]
    | anchor a => cases a <;> cases e <;> simp [NfaState.Silent]

/-- A state can be reached from some seeds without a byte, with or without crossing an end anchor. -/
def Silently (nfa : Nfa) (seeds : List StateId) (atStart : Bool) (s : StateId) (e : Bool) : Prop :=
  Reached (2 * nfa.states.size) (nfa.silentMoves atStart) (seeds.map (place · false)) (place s e)

namespace Silently

variable {seeds : List StateId} {s t : StateId} {e e' : Bool}

theorem seed (hs : s ∈ seeds) (hlt : s < nfa.states.size) : nfa.Silently seeds atStart s false :=
  Reached.seed (List.mem_map_of_mem hs) (place_lt.mpr hlt)

theorem step {q : NfaState} (h : nfa.Silently seeds atStart s e) (hq : nfa.states[s]? = some q)
    (hsil : q.Silent atStart e t e') (ht : t < nfa.states.size) : nfa.Silently seeds atStart t e' :=
  Reached.step h (mem_silentMoves.mpr ⟨q, hq, t, e', hsil, rfl⟩) (place_lt.mpr ht)

@[elab_as_elim]
theorem induct {motive : ∀ s e, nfa.Silently seeds atStart s e → Prop}
    (seed : ∀ s (hs : s ∈ seeds) (hlt : s < nfa.states.size), motive s false (.seed hs hlt))
    (step : ∀ s e q t e' (h : nfa.Silently seeds atStart s e) (hq : nfa.states[s]? = some q)
      (hsil : q.Silent atStart e t e') (ht : t < nfa.states.size), motive s e h →
        motive t e' (h.step hq hsil ht)) {s : StateId} {e : Bool} (h : nfa.Silently seeds atStart s e) :
    motive s e h := by
  let P (p : ℕ) : Prop := ∀ s e, p = place s e → ∃ h, motive s e h
  have hP : P (place s e) := by
    refine Reached.mem_of_closed (P := P) h ?_ ?_
    · rintro _ hmem hlt s e rfl
      obtain ⟨t, ht, hplace⟩ := List.mem_map.mp hmem
      obtain ⟨rfl, rfl⟩ := place_inj.mp hplace
      exact ⟨_, seed t ht (place_lt.mp hlt)⟩
    · rintro p hp _ hmem hlt t e' rfl
      obtain ⟨s, e, rfl⟩ := exists_place p
      obtain ⟨q, hq, u, e'', hsil, hplace⟩ := mem_silentMoves.mp hmem
      obtain ⟨rfl, rfl⟩ := place_inj.mp hplace
      obtain ⟨hs, hm⟩ := hp s e rfl
      exact ⟨_, step s e q t e' hs hq hsil (place_lt.mp hlt) hm⟩
  exact (hP s e rfl).2

end Silently

/-- A set has the states that consume a byte and can be reached from some seeds before an end anchor, and
is accepting if an accepting state can be reached at all. -/
structure Closes (nfa : Nfa) (seeds : List StateId) (atStart : Bool) (S : StateSet) : Prop where
  ascending : S.states.Pairwise (· < ·)
  mem_iff : ∀ s, s ∈ S.states ↔ nfa.consumes s ∧ nfa.Silently seeds atStart s false
  accepting_iff : S.accepting ↔ ∃ s e, nfa.accepts s ∧ nfa.Silently seeds atStart s e

theorem Closes.unique {seeds : List StateId} {S T : StateSet} (hS : nfa.Closes seeds atStart S)
    (hT : nfa.Closes seeds atStart T) : S = T := by
  have hstates : S.states = T.states :=
    hS.ascending.eq_of_mem_iff hT.ascending fun s => (hS.mem_iff s).trans (hT.mem_iff s).symm
  have haccepting : S.accepting = T.accepting :=
    Bool.eq_iff_iff.mpr (hS.accepting_iff.trans hT.accepting_iff.symm)
  cases S
  cases T
  simp_all

theorem Closes.isDead_nil {S : StateSet} (hS : nfa.Closes [] atStart S) : S.isDead := by
  have hnone (s : StateId) (e : Bool) : ¬ nfa.Silently [] atStart s e := by
    rintro ⟨_, hs, -⟩
    simp at hs
  have hstates : S.states = [] := by
    rw [List.eq_nil_iff_forall_not_mem]
    exact fun s hs => hnone s false ((hS.mem_iff s).mp hs).2
  have haccepting : S.accepting = false := by
    rw [Bool.eq_false_iff]
    intro ha
    obtain ⟨s, e, -, hs⟩ := hS.accepting_iff.mp ha
    exact hnone s e hs
  rw [StateSet.isDead, hstates, haccepting]
  rfl

private theorem pairwise_lt_mergeSort {l : List ℕ} (h : l.Nodup) :
    l.mergeSort.Pairwise (· < ·) := by
  have hle : l.mergeSort.Pairwise (· ≤ ·) := List.pairwise_mergeSort' (· ≤ ·) l
  have hne : l.mergeSort.Nodup := (List.mergeSort_perm l _).nodup_iff.mpr h
  exact (hle.and hne).imp fun h => lt_of_le_of_ne h.1 h.2

theorem closure_closes {m : Marks} (hm : m.Bounded) (hsize : m.stamps.size = 2 * nfa.states.size)
    (seeds : List StateId) (atStart : Bool) :
    nfa.Closes seeds atStart (nfa.closure m seeds atStart).1 ∧
      (nfa.closure m seeds atStart).2.Bounded ∧
      (nfa.closure m seeds atStart).2.stamps.size = 2 * nfa.states.size := by
  have h := explore_explored (nfa.silentMoves atStart) m.clear (seeds.map (place · false)) []
  have hclear := m.contains_clear hm
  obtain ⟨found, hfound, hnodup, hmem⟩ := h.listed
  have hreached (s : ℕ) (e : Bool) : place s e ∈ found ↔ nfa.Silently seeds atStart s e := by
    rw [hmem, h.contains_iff hclear, Marks.size_clear, hsize, Silently]
    simp [hclear]
  unfold closure
  generalize explore (nfa.silentMoves atStart) m.clear (seeds.map (place · false)) [] = r at *
  obtain ⟨m', found'⟩ := r
  obtain rfl : found' = found := by simpa using hfound
  refine ⟨⟨?_, fun s => ?_, ?_⟩, h.bounded hm.clear, h.size.trans hsize⟩
  · refine pairwise_lt_mergeSort (hnodup.filterMap ?_)
    intro p q s hp hq
    obtain ⟨t, e, rfl⟩ := exists_place p
    obtain ⟨u, e', rfl⟩ := exists_place q
    simp only [place_div, place_mod, Option.ite_none_right_eq_some, Bool.and_eq_true,
      decide_eq_true_eq, Bool.toNat_eq_zero, Option.mem_def, Option.some.injEq] at hp hq
    rw [place_inj]
    exact ⟨hp.2.trans hq.2.symm, hp.1.1.trans hq.1.1.symm⟩
  · rw [List.mem_mergeSort, List.mem_filterMap, ← hreached]
    constructor
    · rintro ⟨p, hp, hs⟩
      obtain ⟨t, e, rfl⟩ := exists_place p
      simp only [place_div, place_mod] at hs
      split at hs
      · cases hs
        cases e <;> simp_all
      · simp at hs
    · rintro ⟨hc, hp⟩
      exact ⟨place s false, hp, by simp [place_div, place_mod, hc]⟩
  · simp only [List.any_eq_true, ← hreached]
    constructor
    · rintro ⟨p, hp, ha⟩
      obtain ⟨t, e, rfl⟩ := exists_place p
      rw [place_div] at ha
      exact ⟨t, e, ha, hp⟩
    · rintro ⟨s, e, ha, hp⟩
      exact ⟨place s e, hp, by rwa [place_div]⟩

theorem exists_closes (nfa : Nfa) (seeds : List StateId) (atStart : Bool) : ∃ S, nfa.Closes seeds atStart S :=
  ⟨_, (nfa.closure_closes (Marks.bounded_none _) (Marks.size_none _) seeds atStart).1⟩

theorem lt_of_runs {n : ℕ} {s : StateId} {i : ℕ} (h : nfa.Runs w n s i) : s < nfa.states.size := by
  cases n with
  | zero => exact (Array.getElem?_eq_some_iff.mp h.1).1
  | succ n =>
    obtain ⟨q, t, j, hs, -⟩ := h
    exact (Array.getElem?_eq_some_iff.mp hs).1

theorem moves_of_silent {q : NfaState} {i : ℕ} {e e' : Bool} {t : StateId}
    (h : q.Silent (i == 0) e t e') (hend : e' → i = w.length) :
    q.Moves w i t i ∧ (e → e') := by
  cases q with
  | range | accept => exact h.elim
  | epsilon => exact ⟨⟨h.1, rfl⟩, h.2 ▸ id⟩
  | union => exact ⟨⟨h.1, rfl⟩, h.2 ▸ id⟩
  | anchor a =>
    cases a with
    | start => exact ⟨⟨h.2.1, rfl, beq_iff_eq.mp h.1⟩, h.2.2 ▸ id⟩
    | stop => exact ⟨⟨h.1, rfl, hend h.2⟩, fun _ => h.2⟩

/-- A move either reads a byte or is silent, and then an end anchor is crossed at the end only. -/
theorem silent_of_moves {q : NfaState} {i j : ℕ} {t : StateId} (h : q.Moves w i t j) (e : Bool) :
    (∃ lo hi b, q = .range lo hi t ∧ j = i + 1 ∧ w[i]? = some b ∧ lo ≤ b ∧ b ≤ hi) ∨
      j = i ∧ ∃ e', q.Silent (i == 0) e t e' ∧ (e' → e ∨ i = w.length) := by
  cases q with
  | range lo hi next =>
    obtain ⟨rfl, rfl, b, hb, hr⟩ := h
    exact .inl ⟨lo, hi, b, rfl, rfl, hb, hr⟩
  | epsilon => exact .inr ⟨h.2, e, ⟨h.1, rfl⟩, .inl⟩
  | union => exact .inr ⟨h.2, e, ⟨h.1, rfl⟩, .inl⟩
  | anchor a =>
    cases a with
    | start => exact .inr ⟨h.2.1, e, ⟨beq_iff_eq.mpr h.2.2, h.1, rfl⟩, .inl⟩
    | stop => exact .inr ⟨h.2.1, true, ⟨h.1, rfl⟩, fun _ => .inr h.2.2⟩
  | accept => exact h.elim

theorem consumes_iff_exists_range {s : StateId} : nfa.consumes s ↔ ∃ lo hi t, nfa.states[s]? = some (.range lo hi t) := by
  unfold consumes
  split <;> simp_all

theorem mem_step {S : StateSet} {b : UInt8} {t : StateId} :
    t ∈ nfa.step S b ↔
      ∃ s ∈ S.states, ∃ lo hi, nfa.states[s]? = some (.range lo hi t) ∧ lo ≤ b ∧ b ≤ hi := by
  simp only [step, List.mem_filterMap]
  refine exists_congr fun s => and_congr_right fun _ => ?_
  cases nfa.states[s]? with
  | none => simp
  | some q => cases q <;> simp [and_comm, and_assoc]

end Nfa

/-- What a set accepts from a position: the end of the text if it is accepting, and what its states
accept after a byte. -/
def StateSet.Accepts (nfa : Nfa) (w : List UInt8) (S : StateSet) (i : ℕ) : Prop :=
  i = w.length ∧ S.accepting ∨ ∃ b, w[i]? = some b ∧ ∃ t ∈ nfa.step S b, nfa.Accepts w t (i + 1)

namespace Nfa

variable {nfa : Nfa} {w : List UInt8} {seeds : List StateId} {S : StateSet} {i : ℕ}

private theorem Closes.accepts_of_runs (h : nfa.Closes seeds (i == 0) S) {n : ℕ} :
    ∀ {s e}, nfa.Silently seeds (i == 0) s e → (e → i = w.length) → nfa.Runs w n s i →
      S.Accepts nfa w i := by
  induction n with
  | zero =>
    intro s e hs _ hr
    exact .inl ⟨hr.2, h.accepting_iff.mpr ⟨s, e, by simp [accepts, hr.1], hs⟩⟩
  | succ n ih =>
    intro s e hs he hr
    obtain ⟨q, t, j, hq, hm, hr⟩ := hr
    rcases silent_of_moves hm e with ⟨lo, hi, b, rfl, rfl, hb, hrange⟩ | ⟨rfl, e', hsil, hend⟩
    · have hfalse : e = false := by
        by_contra hne
        have := he (by simpa using hne)
        simp [this] at hb
      have hmem := (h.mem_iff s).mpr ⟨by simp [consumes, hq], hfalse ▸ hs⟩
      exact .inr ⟨b, hb, t, mem_step.mpr ⟨s, hmem, lo, hi, hq, hrange⟩, n, hr⟩
    · exact ih (hs.step hq hsil (lt_of_runs hr)) (fun h => (hend h).elim he id) hr

private theorem accepts_of_silently {s : StateId} {e : Bool}
    (hs : nfa.Silently seeds (i == 0) s e) (he : e → i = w.length) (ha : nfa.Accepts w s i) :
    ∃ s ∈ seeds, nfa.Accepts w s i := by
  -- acceptance goes back from a state to those before it, up to a seed
  induction hs using Silently.induct with
  | seed s hs _ => exact ⟨s, hs, ha⟩
  | step s e q t e' _ hq hsil _ ih =>
    obtain ⟨n, hr⟩ := ha
    obtain ⟨hm, hee⟩ := moves_of_silent hsil he
    exact ih (fun h => he (hee h)) ⟨n + 1, runs_of_move hq hm hr⟩

/-- A set that closes some seeds accepts from a position what the seeds accept from there. -/
theorem Closes.accepts_iff (h : nfa.Closes seeds (i == 0) S) :
    (∃ s ∈ seeds, nfa.Accepts w s i) ↔ S.Accepts nfa w i := by
  constructor
  · rintro ⟨s, hs, n, hr⟩
    have hlt := lt_of_runs hr
    exact h.accepts_of_runs (.seed hs hlt) (by simp) hr
  · rintro (⟨hi, ha⟩ | ⟨b, hb, t, ht, n, hr⟩)
    · obtain ⟨s, e, hs, hr⟩ := h.accepting_iff.mp ha
      exact accepts_of_silently hr (fun _ => hi) ⟨0, beq_iff_eq.mp hs, hi⟩
    · obtain ⟨s, hs, lo, hi, hq, hrange⟩ := mem_step.mp ht
      have hsil := ((h.mem_iff s).mp hs).2
      exact accepts_of_silently hsil (by simp)
        ⟨n + 1, runs_of_move hq ⟨rfl, rfl, b, hb, hrange⟩ hr⟩

end Nfa

end ConstrainedDecoding.Automaton
