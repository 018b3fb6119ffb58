import ConstrainedDecoding.Automaton.Nfa
import ConstrainedDecoding.Proofs.Pattern.Matching
import Mathlib.Data.Nat.Basic
import Mathlib.Order.Basic
import Mathlib.Tactic.Common

/-! Runs of nondeterministic automata over a text. A run that enters a fragment has to leave it through
its exit; what lies between is the relation that the fragment stands for. -/
namespace ConstrainedDecoding.Automaton
open Pattern (Steps)

def Anchor.HoldsAt (w : List UInt8) : Anchor → ℕ → Prop
  | .start, i => i = 0
  | .stop, i => i = w.length

def NfaState.Moves (w : List UInt8) : NfaState → ℕ → StateId → ℕ → Prop
  | .range lo hi next, i, t, j => t = next ∧ j = i + 1 ∧ ∃ b, w[i]? = some b ∧ lo ≤ b ∧ b ≤ hi
  | .epsilon next, i, t, j => t = next ∧ j = i
  | .union alternatives, i, t, j => t ∈ alternatives ∧ j = i
  | .anchor a next, i, t, j => t = next ∧ j = i ∧ a.HoldsAt w i
  | .accept, _, _, _ => False

namespace Nfa

/-- A run of `n` moves from a state at a position accepts at the end of the text. -/
def Runs (nfa : Nfa) (w : List UInt8) : ℕ → StateId → ℕ → Prop
  | 0, s, i => nfa.states[s]? = some .accept ∧ i = w.length
  | n + 1, s, i => ∃ q t j, nfa.states[s]? = some q ∧ q.Moves w i t j ∧ Runs nfa w n t j

def Accepts (nfa : Nfa) (w : List UInt8) (s : StateId) (i : ℕ) : Prop := ∃ n, nfa.Runs w n s i

variable {nfa : Nfa} {w : List UInt8}

theorem runs_of_move {n : ℕ} {s t : StateId} {i j : ℕ} {q : NfaState}
    (hs : nfa.states[s]? = some q) (hm : q.Moves w i t j) (hr : nfa.Runs w n t j) :
    nfa.Runs w (n + 1) s i := ⟨q, t, j, hs, hm, hr⟩

/-- A run from any state but the accepting one begins with a move of that state. -/
theorem move_of_runs {n : ℕ} {s : StateId} {i : ℕ} {q : NfaState} (hs : nfa.states[s]? = some q)
    (hq : q ≠ .accept) (hr : nfa.Runs w n s i) :
    ∃ m, n = m + 1 ∧ ∃ t j, q.Moves w i t j ∧ nfa.Runs w m t j := by
  cases n with
  | zero =>
    have := hs.symm.trans hr.1
    exact absurd (Option.some.inj this) hq
  | succ m =>
    obtain ⟨q', t, j, hs', hm, hr⟩ := hr
    obtain rfl := Option.some.inj (hs.symm.trans hs')
    exact ⟨m, rfl, t, j, hm, hr⟩

/-- Every accepting run from one of the entries leaves through the exit, at a position that the
relation leads to, and every step of the relation is taken by a run. -/
structure Leads (nfa : Nfa) (w : List UInt8) (entries : List StateId) (exit : StateId)
    (R : ℕ → ℕ → Prop) : Prop where
  leave : ∀ n, ∀ s ∈ entries, ∀ i, nfa.Runs w n s i → ∃ m ≤ n, ∃ j, R i j ∧ nfa.Runs w m exit j
  enter : ∀ i j, R i j → nfa.Accepts w exit j → ∃ s ∈ entries, nfa.Accepts w s i

namespace Leads

variable {entries : List StateId} {s t exit : StateId} {R S : ℕ → ℕ → Prop}

theorem congr (h : nfa.Leads w entries exit R) (hRS : ∀ i j, R i j ↔ S i j) :
    nfa.Leads w entries exit S := by
  have : R = S := funext fun i => funext fun j => propext (hRS i j)
  exact this ▸ h

theorem refl : nfa.Leads w [s] s (fun i j => i = j) := by
  refine ⟨fun n t ht i hr => ?_, fun i j hij ha => ?_⟩
  · rw [List.mem_singleton.mp ht] at hr
    exact ⟨n, le_rfl, i, rfl, hr⟩
  · exact ⟨s, List.mem_singleton_self s, hij ▸ ha⟩

theorem trans (h₁ : nfa.Leads w entries t R) (h₂ : nfa.Leads w [t] exit S) :
    nfa.Leads w entries exit (fun i j => ∃ k, R i k ∧ S k j) := by
  refine ⟨fun n s hs i hr => ?_, ?_⟩
  · obtain ⟨m, hm, k, hik, hr⟩ := h₁.leave n s hs i hr
    obtain ⟨l, hl, j, hkj, hr⟩ := h₂.leave m t (List.mem_singleton_self t) k hr
    exact ⟨l, hl.trans hm, j, ⟨k, hik, hkj⟩, hr⟩
  · rintro i j ⟨k, hik, hkj⟩ ha
    obtain ⟨s, hs, hk⟩ := h₂.enter k j hkj ha
    exact h₁.enter i k hik (List.mem_singleton.mp hs ▸ hk)

theorem nil : nfa.Leads w [] exit (fun _ _ => False) :=
  ⟨fun _ _ hs => absurd hs List.not_mem_nil, fun _ _ => False.elim⟩

theorem cons (h₁ : nfa.Leads w [s] exit R) (h₂ : nfa.Leads w entries exit S) :
    nfa.Leads w (s :: entries) exit (fun i j => R i j ∨ S i j) := by
  refine ⟨fun n t ht i hr => ?_, fun i j hij ha => ?_⟩
  · rcases List.mem_cons.mp ht with rfl | ht
    · obtain ⟨m, hm, j, hj, hr⟩ := h₁.leave n t (List.mem_singleton_self t) i hr
      exact ⟨m, hm, j, .inl hj, hr⟩
    · obtain ⟨m, hm, j, hj, hr⟩ := h₂.leave n t ht i hr
      exact ⟨m, hm, j, .inr hj, hr⟩
  · rcases hij with hij | hij
    · obtain ⟨t, ht, ha⟩ := h₁.enter i j hij ha
      exact ⟨t, List.mem_cons.mpr (.inl (List.mem_singleton.mp ht)), ha⟩
    · obtain ⟨t, ht, ha⟩ := h₂.enter i j hij ha
      exact ⟨t, List.mem_cons_of_mem s ht, ha⟩

/-- A state whose moves all go to one state. -/
theorem move {q : NfaState} (hs : nfa.states[s]? = some q) (hq : q ≠ .accept)
    (hm : ∀ i u j, q.Moves w i u j ↔ u = t ∧ R i j) : nfa.Leads w [s] t R := by
  refine ⟨fun n u hu i hr => ?_, fun i j hij ha => ?_⟩
  · rw [List.mem_singleton.mp hu] at hr
    obtain ⟨m, rfl, v, j, hv, hr⟩ := move_of_runs hs hq hr
    obtain ⟨rfl, hj⟩ := (hm i v j).mp hv
    exact ⟨m, Nat.le_succ m, j, hj, hr⟩
  · obtain ⟨n, hr⟩ := ha
    exact ⟨s, List.mem_singleton_self s, n + 1, runs_of_move hs ((hm i t j).mpr ⟨rfl, hij⟩) hr⟩

theorem epsilon (hs : nfa.states[s]? = some (.epsilon t)) :
    nfa.Leads w [s] t (fun i j => i = j) :=
  move hs (by simp) fun i u j => by simp [NfaState.Moves, eq_comm (a := j)]

theorem range {lo hi : UInt8} (hs : nfa.states[s]? = some (.range lo hi t)) :
    nfa.Leads w [s] t (fun i j => ∃ b, (lo ≤ b ∧ b ≤ hi) ∧ w[i]? = some b ∧ i + 1 = j) :=
  move hs (by simp) fun i u j => by
    simp only [NfaState.Moves, eq_comm (a := j)]
    constructor
    · rintro ⟨hu, hj, b, hb, hr⟩
      exact ⟨hu, b, hr, hb, hj⟩
    · rintro ⟨hu, b, hr, hb, hj⟩
      exact ⟨hu, hj, b, hb, hr⟩

theorem anchor {a : Anchor} (hs : nfa.states[s]? = some (.anchor a t)) :
    nfa.Leads w [s] t (fun i j => a.HoldsAt w i ∧ i = j) :=
  move hs (by simp) fun i u j => by simp [NfaState.Moves, eq_comm (a := j), and_comm]

theorem union (hs : nfa.states[s]? = some (.union entries)) (h : nfa.Leads w entries exit R) :
    nfa.Leads w [s] exit R := by
  refine ⟨fun n u hu i hr => ?_, fun i j hij ha => ?_⟩
  · rw [List.mem_singleton.mp hu] at hr
    obtain ⟨m, rfl, v, j, ⟨hv, rfl⟩, hr'⟩ := move_of_runs hs (by simp) hr
    obtain ⟨l, hl, hrest⟩ := h.leave m v hv j hr'
    exact ⟨l, hl.trans (Nat.le_succ m), hrest⟩
  · obtain ⟨v, hv, n, hr⟩ := h.enter i j hij ha
    exact ⟨s, List.mem_singleton_self s, n + 1, runs_of_move hs ⟨hv, rfl⟩ hr⟩

/-- A state that chooses between a body, which leads back to it, and the way out. -/
theorem star {body : StateId} (hs : nfa.states[s]? = some (.union [body, exit]))
    (h : nfa.Leads w [body] s R) : nfa.Leads w [s] exit (fun i j => ∃ n, Steps R n i j) := by
  constructor
  · -- the body takes the run back to the same state with fewer moves
    intro n
    induction n using Nat.strong_induction_on with
    | _ n ih =>
      intro u hu i hr
      rw [List.mem_singleton.mp hu] at hr
      obtain ⟨m, rfl, v, j, ⟨hv, rfl⟩, hr'⟩ := move_of_runs hs (by simp) hr
      simp only [List.mem_cons, List.not_mem_nil, or_false] at hv
      rcases hv with rfl | rfl
      · obtain ⟨l, hl, k, hjk, hr''⟩ := h.leave m v (List.mem_singleton_self v) j hr'
        obtain ⟨l', hl', k', ⟨c, hc⟩, hout⟩ :=
          ih l (Nat.lt_succ_of_le hl) s (List.mem_singleton_self s) k hr''
        exact ⟨l', by omega, k', ⟨c + 1, k, hjk, hc⟩, hout⟩
      · exact ⟨m, Nat.le_succ m, j, ⟨0, rfl⟩, hr'⟩
  · rintro i j ⟨c, hc⟩ ha
    induction c generalizing i with
    | zero =>
      obtain rfl := hc
      obtain ⟨n, hr⟩ := ha
      exact ⟨s, List.mem_singleton_self s, n + 1, runs_of_move hs ⟨by simp, rfl⟩ hr⟩
    | succ c ih =>
      obtain ⟨k, hik, hc⟩ := hc
      obtain ⟨u, hu, hk⟩ := ih k hc
      obtain ⟨v, hv, n, hr⟩ := h.enter i k hik (List.mem_singleton.mp hu ▸ hk)
      rw [List.mem_singleton.mp hv] at hr
      exact ⟨s, List.mem_singleton_self s, n + 1, runs_of_move hs ⟨by simp, rfl⟩ hr⟩

end Leads

end Nfa

end ConstrainedDecoding.Automaton
