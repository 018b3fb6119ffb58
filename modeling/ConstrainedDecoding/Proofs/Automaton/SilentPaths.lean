import ConstrainedDecoding.Proofs.Automaton.Closure

/-! Closures by paths. The states of a closure are those that paths without bytes and end anchors lead to;
whether it accepts is told from paths that may cross end anchors as well. It is the same whatever closures
were computed before with the same marks.
-/
namespace ConstrainedDecoding

open Relation (ReflTransGen)

theorem stamp_explore (succ : ℕ → List ℕ) (m : Marks) (stack found : List ℕ) :
    (explore succ m stack found).1.stamp = m.stamp := by
  fun_induction explore succ m stack found with
  | case1 => rfl
  | case2 _ _ _ _ _ ih => exact ih
  | case3 _ _ _ _ _ ih => exact ih

namespace Automaton

def NfaState.Passes (atStart : Bool) : NfaState → StateId → Prop
  | .epsilon next, t => t = next
  | .union alternatives, t => t ∈ alternatives
  | .anchor .start next, t => atStart ∧ t = next
  | .anchor .stop _, _ => False
  | .range _ _ _, _ => False
  | .accept, _ => False

theorem NfaState.silent_iff {q : NfaState} {atStart e e' : Bool} {t : StateId} :
    q.Silent atStart e t e' ↔ q.Passes atStart t ∧ e' = e ∨ q = .anchor .stop t ∧ e' = true := by
  cases q with
  | range | accept | epsilon | union => simp [Silent, Passes]
  | anchor a => cases a <;> simp [Silent, Passes, and_assoc, eq_comm]

namespace Nfa

variable {nfa : Nfa} {seeds seeds' : List StateId} {atStart : Bool} {s t : StateId} {k k' : ℕ} {m m' : Marks}

def Passes (nfa : Nfa) (atStart : Bool) (s t : StateId) : Prop :=
  ∃ q, nfa.states[s]? = some q ∧ q.Passes atStart t

/-- One step without a byte, perhaps across an end anchor. -/
def PassesEnd (nfa : Nfa) (atStart : Bool) (s t : StateId) : Prop :=
  nfa.Passes atStart s t ∨ nfa.states[s]? = some (.anchor .stop t)

theorem lt_of_getElem? {q : NfaState} (h : nfa.states[s]? = some q) : s < nfa.states.size :=
  (Array.getElem?_eq_some_iff.mp h).1

/-- Until an end anchor is crossed, silent moves are steps without one. -/
theorem silently_false_iff (hs : s < nfa.states.size) :
    nfa.Silently seeds atStart s false ↔ ∃ r ∈ seeds, ReflTransGen (nfa.Passes atStart) r s := by
  constructor
  · intro h
    have hpath : ∀ {s e}, nfa.Silently seeds atStart s e → e = false →
        ∃ r ∈ seeds, ReflTransGen (nfa.Passes atStart) r s := by
      intro s e h he
      induction h using Silently.induct with
      | seed s hmem _ => exact ⟨s, hmem, .refl⟩
      | step s e q t e' _ hq hsil _ ih =>
        rcases NfaState.silent_iff.mp hsil with ⟨hpass, rfl⟩ | ⟨-, rfl⟩
        · obtain ⟨r, hr, hpath⟩ := ih he
          exact ⟨r, hr, hpath.tail ⟨q, hq, hpass⟩⟩
        · cases he
    exact hpath h rfl
  · rintro ⟨r, hr, hpath⟩
    induction hpath with
    | refl => exact .seed hr hs
    | tail _ hpass ih =>
      obtain ⟨q, hq, hpass⟩ := hpass
      exact (ih (lt_of_getElem? hq)).step hq (NfaState.silent_iff.mpr (.inl ⟨hpass, rfl⟩)) hs

theorem exists_silently_iff (hs : s < nfa.states.size) :
    (∃ e, nfa.Silently seeds atStart s e) ↔
      ∃ r ∈ seeds, ReflTransGen (nfa.PassesEnd atStart) r s := by
  constructor
  · rintro ⟨e, h⟩
    clear hs
    induction h using Silently.induct with
    | seed s hmem _ => exact ⟨s, hmem, .refl⟩
    | step s e q t e' _ hq hsil _ ih =>
      obtain ⟨r, hr, hpath⟩ := ih
      refine ⟨r, hr, hpath.tail ?_⟩
      rcases NfaState.silent_iff.mp hsil with ⟨hpass, -⟩ | ⟨rfl, -⟩
      · exact .inl ⟨q, hq, hpass⟩
      · exact .inr hq
  · rintro ⟨r, hr, hpath⟩
    induction hpath with
    | refl => exact ⟨false, .seed hr hs⟩
    | tail _ hpass ih =>
      rcases hpass with ⟨q, hq, hpass⟩ | hq
      · obtain ⟨e, h⟩ := ih (lt_of_getElem? hq)
        exact ⟨e, h.step hq (NfaState.silent_iff.mpr (.inl ⟨hpass, rfl⟩)) hs⟩
      · obtain ⟨e, h⟩ := ih (lt_of_getElem? hq)
        exact ⟨true, h.step hq (NfaState.silent_iff.mpr (.inr ⟨rfl, rfl⟩)) hs⟩

/-- Seeds in another order, or given more often, have the same closures. -/
theorem Closes.of_mem_iff {S : StateSet} (h : nfa.Closes seeds atStart S)
    (hseeds : ∀ s, s ∈ seeds ↔ s ∈ seeds') : nfa.Closes seeds' atStart S := by
  have hsil (s : StateId) (e : Bool) : nfa.Silently seeds atStart s e ↔ nfa.Silently seeds' atStart s e :=
    ⟨fun h => h.mono (List.map_subset _ fun s => (hseeds s).mp),
      fun h => h.mono (List.map_subset _ fun s => (hseeds s).mpr)⟩
  exact ⟨h.ascending, fun s => (h.mem_iff s).trans (and_congr_right fun _ => hsil s false),
    h.accepting_iff.trans (exists_congr fun s => exists_congr fun e => and_congr_right fun _ => hsil s e)⟩

/-- Marks that some closures over `n` states have left behind, one after the other. -/
inductive Used (n : ℕ) : ℕ → Marks → Prop
  | fresh : Used n 0 (.none (2 * n))
  | again {k : ℕ} {m : Marks} {nfa : Nfa} (h : Used n k m) (hn : nfa.states.size = n)
    (seeds : List StateId) (atStart : Bool) : Used n (k + 1) (nfa.closure m seeds atStart).2

theorem Used.ready {n : ℕ} (h : Used n k m) :
    m.Bounded ∧ m.stamps.size = 2 * n ∧ m.stamp = k + 1 := by
  induction h with
  | fresh => exact ⟨Marks.bounded_none _, Marks.size_none _, rfl⟩
  | again _ hn seeds atStart ih =>
    obtain ⟨hbounded, hsize, hstamp⟩ := ih
    subst hn
    obtain ⟨-, hbounded', hsize'⟩ := closure_closes hbounded hsize seeds atStart
    refine ⟨hbounded', hsize', ?_⟩
    rw [closure, stamp_explore, Marks.clear, hstamp]

theorem Used.closes (h : Used nfa.states.size k m) (seeds : List StateId) (atStart : Bool) :
    nfa.Closes seeds atStart (nfa.closure m seeds atStart).1 := by
  obtain ⟨hbounded, hsize, -⟩ := h.ready
  exact (closure_closes hbounded hsize seeds atStart).1

/-- A closure after any others is the ascending list of the consuming states on paths from its seeds, and is
accepting if a path across any number of end anchors leads to an accepting state. Neither the order of the
seeds nor what was computed before plays a part. Each closure takes the next stamp. -/
theorem closure_exact (h : Used nfa.states.size k m) (seeds : List StateId) (atStart : Bool) :
    m.stamp = k + 1 ∧
      (nfa.closure m seeds atStart).1.states.Pairwise (· < ·) ∧
      (∀ s, s ∈ (nfa.closure m seeds atStart).1.states ↔
        (∃ lo hi t, nfa.states[s]? = some (.range lo hi t)) ∧
          ∃ r ∈ seeds, ReflTransGen (nfa.Passes atStart) r s) ∧
      ((nfa.closure m seeds atStart).1.accepting ↔
        ∃ s, nfa.states[s]? = some .accept ∧ ∃ r ∈ seeds, ReflTransGen (nfa.PassesEnd atStart) r s) ∧
      ∀ k' m' seeds', Used nfa.states.size k' m' → (∀ s, s ∈ seeds ↔ s ∈ seeds') →
        (nfa.closure m' seeds' atStart).1 = (nfa.closure m seeds atStart).1 := by
  have hcloses := h.closes seeds atStart
  refine ⟨h.ready.2.2, hcloses.ascending, fun s => ?states, ?accepting, fun k' m' seeds' h' hseeds => ?same⟩
  case states =>
    rw [hcloses.mem_iff, consumes_iff_exists_range]
    refine and_congr_right ?_
    rintro ⟨lo, hi, t, hq⟩
    exact silently_false_iff (lt_of_getElem? hq)
  case accepting =>
    rw [hcloses.accepting_iff]
    refine exists_congr fun s => ?_
    rw [exists_and_left, accepts, beq_iff_eq]
    exact and_congr_right fun hq => exists_silently_iff (lt_of_getElem? hq)
  case same => exact (h'.closes seeds' atStart).unique (hcloses.of_mem_iff hseeds)

/-- A cycle of silent moves, and a state that is reached before and after an end anchor. -/
def cyclic : Nfa where
  states := #[.union [1, 2, 3], .epsilon 0, .range 97 97 0, .anchor .stop 4, .union [2, 5], .accept]
  start := 0

/-- The cycle ends, and the consuming state is not lost to the visits that an earlier closure made, nor to
the one after the end anchor. -/
theorem closure_exact_cyclic : ∃ m, Used cyclic.states.size 1 m ∧ m.stamp = 2 ∧
    2 ∈ (cyclic.closure m [1, 1] false).1.states ∧ (cyclic.closure m [1, 1] false).1.accepting ∧
    (cyclic.closure (.none 12) [1] false).1 = (cyclic.closure m [1, 1] false).1 := by
  have hfresh : Used cyclic.states.size 0 (.none 12) := .fresh
  have hused : Used cyclic.states.size 1 (cyclic.closure (.none 12) [4] true).2 := hfresh.again rfl [4] true
  obtain ⟨hstamp, -, hstates, haccepting, hsame⟩ := closure_exact hused [1, 1] false
  have hback : cyclic.Passes false 1 0 := ⟨.epsilon 0, rfl, rfl⟩
  have hbody : cyclic.Passes false 0 2 := ⟨.union [1, 2, 3], rfl, by simp [NfaState.Passes]⟩
  have hleave : cyclic.Passes false 0 3 := ⟨.union [1, 2, 3], rfl, by simp [NfaState.Passes]⟩
  have hend : cyclic.PassesEnd false 3 4 := .inr rfl
  have hlast : cyclic.Passes false 4 5 := ⟨.union [2, 5], rfl, by simp [NfaState.Passes]⟩
  refine ⟨_, hused, hstamp, (hstates 2).mpr ⟨⟨97, 97, 0, rfl⟩, 1, by simp, ?_⟩,
    haccepting.mpr ⟨5, rfl, 1, by simp, ?_⟩, hsame 0 _ [1] hfresh (by simp)⟩
  · exact (ReflTransGen.single hback).tail hbody
  · exact (((ReflTransGen.single (.inl hback)).tail (.inl hleave)).tail hend).tail (.inl hlast)

end Nfa

end Automaton

end ConstrainedDecoding
