import ConstrainedDecoding.Proofs.Automaton.Layout
import ConstrainedDecoding.Proofs.Automaton.Relocation

/-! The states of a plan go to each other and to the exit only, and the exit is reached from all of them unless
a choice without alternatives is.
-/
namespace ConstrainedDecoding.Automaton

open Relation (ReflTransGen)

namespace NfaState

def targets : NfaState → List StateId
  | .range _ _ t => [t]
  | .epsilon t => [t]
  | .union alternatives => alternatives
  | .anchor _ t => [t]
  | .accept => []

theorem map_targets (f : ℕ → ℕ) (q : NfaState) : (q.rename f).targets = q.targets.map f := by
  cases q <;> rfl

end NfaState

namespace Plan

/-- A plan goes nowhere but to its own states and to its exit: they are all that may not be renumbered. -/
theorem mem_targets (p : Plan) (base exit : ℕ) :
    ∀ q ∈ p.states base exit, ∀ t ∈ q.targets, base ≤ t ∧ t < base + p.size ∨ t = exit := by
  intro q hq t ht
  let f (t : ℕ) : ℕ := if base ≤ t ∧ t < base + p.size ∨ t = exit then t else t + 1
  have hexit : f exit = exit := if_pos (.inr rfl)
  have hfixed : Relocates f 0 base p.size := fun i hi => if_pos (.inl ⟨by omega, by omega⟩)
  have hrename : p.states (base + 0) (f exit) = (p.states base exit).map (NfaState.rename f) :=
    states_rename p hfixed
  rw [hexit, Nat.add_zero] at hrename
  have hkept : q.rename f = q := List.map_inj_left.mp (hrename.symm.trans (List.map_id _).symm) q hq
  have htargets : q.targets.map f = q.targets.map id := by rw [← NfaState.map_targets, hkept, List.map_id]
  have ht' : f t = t := List.map_inj_left.mp htargets t ht
  by_contra hout
  rw [show f t = t + 1 from if_neg hout] at ht'
  omega

end Plan

namespace Nfa

variable {nfa : Nfa}

def Edge (nfa : Nfa) (s t : StateId) : Prop := ∃ q, nfa.states[s]? = some q ∧ t ∈ q.targets

/-- A state leads to the exit, or to a choice that nothing can leave. -/
def Escapes (nfa : Nfa) (exit s : StateId) : Prop :=
  ∃ t, ReflTransGen nfa.Edge s t ∧ (t = exit ∨ nfa.states[t]? = some (.union []))

namespace Escapes

variable {s t exit middle : ℕ}

theorem refl : nfa.Escapes exit exit := ⟨exit, .refl, .inl rfl⟩

theorem head {q : NfaState} (hs : nfa.states[s]? = some q) (ht : t ∈ q.targets) (h : nfa.Escapes exit t) :
    nfa.Escapes exit s := by
  obtain ⟨u, hu, hend⟩ := h
  exact ⟨u, .head ⟨q, hs, ht⟩ hu, hend⟩

theorem trans (h : nfa.Escapes middle s) (h' : nfa.Escapes exit middle) : nfa.Escapes exit s := by
  obtain ⟨t, ht, rfl | hdead⟩ := h
  · obtain ⟨u, hu, hend⟩ := h'
    exact ⟨u, ht.trans hu, hend⟩
  · exact ⟨t, ht, .inr hdead⟩

end Escapes

/-- Wherever `n` states are laid out from `base` on, all of them lead to the exit. -/
structure Flows (base n : ℕ) (l : StateId → List NfaState) : Prop where
  length : ∀ exit, (l exit).length = n
  escapes : ∀ {nfa : Nfa} {exit : ℕ}, nfa.Lays base (l exit) → ∀ i < n, nfa.Escapes exit (base + i)

namespace Flows

open Plan

variable {base n m : ℕ} {l l' : StateId → List NfaState}

theorem single {q : StateId → NfaState} (hq : ∀ exit, exit ∈ (q exit).targets) :
    Flows base 1 fun exit => [q exit] := by
  refine ⟨fun _ => rfl, fun h i hi => ?_⟩
  obtain rfl : i = 0 := Nat.lt_one_iff.mp hi
  exact .head (lays_cons.mp h).1 (hq _) .refl

theorem append (h : Flows base n l) (h' : Flows (base + n) m l') (hm : 0 < m) :
    Flows base (n + m) fun exit => l (base + n) ++ l' exit := by
  refine ⟨fun exit => by rw [List.length_append, h.length, h'.length], fun hlays i hi => ?_⟩
  rw [lays_append, h.length] at hlays
  rcases Nat.lt_or_ge i n with hin | hin
  · exact (h.escapes hlays.1 i hin).trans (h'.escapes hlays.2 0 hm)
  · obtain ⟨j, rfl⟩ := Nat.exists_eq_add_of_le hin
    rw [← Nat.add_assoc]
    exact h'.escapes hlays.2 j (Nat.lt_of_add_lt_add_left hi)

theorem beside (h : Flows base n l) (h' : Flows (base + n) m l') :
    Flows base (n + m) fun exit => l exit ++ l' exit := by
  refine ⟨fun exit => by rw [List.length_append, h.length, h'.length], fun hlays i hi => ?_⟩
  rw [lays_append, h.length] at hlays
  rcases Nat.lt_or_ge i n with hin | hin
  · exact h.escapes hlays.1 i hin
  · obtain ⟨j, rfl⟩ := Nat.exists_eq_add_of_le hin
    rw [← Nat.add_assoc]
    exact h'.escapes hlays.2 j (Nat.lt_of_add_lt_add_left hi)

theorem choice {ns : List ℕ} (h : Flows (base + 2) (total ns) l) (hpos : ∀ n ∈ ns, 0 < n) :
    Flows base (total ns + 2) fun exit => .union (starts (base + 2) ns) :: .epsilon exit :: l (base + 1) := by
  refine ⟨fun exit => by rw [List.length_cons, List.length_cons, h.length], fun {nfa exit} hlays i hi => ?_⟩
  obtain ⟨hunion, hexit, hinner⟩ := (lays_cons.mp hlays).imp_right lays_cons.mp
  have hout : nfa.Escapes exit (base + 1) := .head hexit (List.mem_singleton_self exit) .refl
  match i with
  | 0 =>
    cases ns with
    | nil => exact ⟨base, .refl, .inr hunion⟩
    | cons n ns =>
      have hn : 0 < total (n :: ns) := Nat.add_pos_left (hpos n List.mem_cons_self) _
      exact .head hunion List.mem_cons_self ((h.escapes hinner 0 hn).trans hout)
  | 1 => exact hout
  | i + 2 =>
    rw [Nat.add_comm i, ← Nat.add_assoc]
    exact (h.escapes hinner i (Nat.lt_of_add_lt_add_right hi)).trans hout

theorem loop (h : Flows (base + 2) n l) :
    Flows base (n + 2) fun exit => .union [base + 2, base + 1] :: .epsilon exit :: l base := by
  refine ⟨fun exit => by rw [List.length_cons, List.length_cons, h.length], fun {nfa exit} hlays i hi => ?_⟩
  obtain ⟨hunion, hexit, hbody⟩ := (lays_cons.mp hlays).imp_right lays_cons.mp
  have hout : nfa.Escapes exit (base + 1) := .head hexit (List.mem_singleton_self exit) .refl
  have hsplit : nfa.Escapes exit base := .head hunion (by simp [NfaState.targets]) hout
  match i with
  | 0 => exact hsplit
  | 1 => exact hout
  | i + 2 =>
    rw [Nat.add_comm i, ← Nat.add_assoc]
    exact (h.escapes hbody i (Nat.lt_of_add_lt_add_right hi)).trans hsplit

/-- States that go on with others, over the state that those others go on with. -/
theorem across (h : Flows base n l) (h' : Flows (base + n + 1) m l') (hm : 0 < m) :
    Flows base (n + (m + 1)) fun exit => l (base + n + 1) ++ .epsilon exit :: l' (base + n) := by
  refine ⟨fun exit => by rw [List.length_append, List.length_cons, h.length, h'.length],
    fun {nfa exit} hlays i hi => ?_⟩
  rw [lays_append, h.length, lays_cons] at hlays
  obtain ⟨hfirst, hexit, hsecond⟩ := hlays
  have hout : nfa.Escapes exit (base + n) := .head hexit (List.mem_singleton_self exit) .refl
  have hcross (j : ℕ) (hj : j < m) : nfa.Escapes exit (base + n + 1 + j) :=
    (h'.escapes hsecond j hj).trans hout
  rcases Nat.lt_or_ge i n with hin | hin
  · exact (h.escapes hfirst i hin).trans (hcross 0 hm)
  · obtain ⟨j, rfl⟩ := Nat.exists_eq_add_of_le hin
    match j with
    | 0 => exact hout
    | j + 1 =>
      rw [show base + (n + (j + 1)) = base + n + 1 + j by omega]
      exact hcross j (by omega)

theorem copies {piece : ℕ → StateId → List NfaState} (h : ∀ base, Flows base n (piece base)) (hn : 0 < n)
    (base k : ℕ) : Flows base ((k + 1) * n) fun exit => Plan.copies piece n base exit (k + 1) := by
  induction k generalizing base with
  | zero =>
    rw [Nat.zero_add, Nat.one_mul]
    exact h base
  | succ k ih =>
    rw [Nat.succ_mul, Nat.add_comm]
    exact (h base).append (ih (base + n)) (Nat.mul_pos k.succ_pos hn)

section Plan

variable {sub : Plan} (h : ∀ base, Flows base sub.size fun exit => sub.states base exit)
include h

theorem lead (base min : ℕ) : Flows base (1 + min * sub.size) (Plan.lead sub base min) := by
  have hfirst : Flows base 1 fun exit => [.epsilon exit] := .single fun exit => List.mem_singleton_self exit
  rw [Plan.lead, followed_replicate]
  cases min with
  | zero =>
    rw [Nat.zero_mul]
    exact hfirst
  | succ k => exact hfirst.append (copies h (size_pos sub) (base + 1) k) (Nat.mul_pos k.succ_pos (size_pos sub))

theorem option (out base : ℕ) : Flows base (sub.size + 1) (Plan.option sub out base) := by
  refine ⟨fun exit => by rw [Plan.option, List.length_cons, (h _).length], fun hlays i hi => ?_⟩
  obtain ⟨hunion, hcopy⟩ := lays_cons.mp hlays
  match i with
  | 0 => exact .head hunion (by simp [NfaState.targets]) ((h _).escapes hcopy 0 (size_pos sub))
  | i + 1 =>
    rw [Nat.add_comm i, ← Nat.add_assoc]
    exact (h _).escapes hcopy i (Nat.lt_of_succ_lt_succ hi)

theorem repetition (min : ℕ) (max : Option ℕ) (base : ℕ) :
    Flows base (Plan.repetition sub min max).size fun exit => (Plan.repetition sub min max).states base exit := by
  have hlead := lead h base min
  have hplace : base + (1 + min * sub.size) = base + 1 + min * sub.size := (Nat.add_assoc ..).symm
  cases max with
  | none =>
    simp only [Plan.size, Plan.states_loop]
    rw [← hplace]
    exact hlead.append (loop (h _)) (Nat.succ_pos _)
  | some m =>
    by_cases hm : min < m
    · obtain ⟨k, hk⟩ : ∃ k, m - min = k + 1 := ⟨m - min - 1, by omega⟩
      simp only [Plan.size, if_pos hm, Plan.states_options sub hm, hk]
      rw [← hplace]
      exact hlead.across (copies (option h _) (Nat.succ_pos _) _ k) (Nat.mul_pos k.succ_pos (Nat.succ_pos _))
    · simp only [Plan.size, if_neg hm, Nat.add_zero, Plan.states_copies sub hm]
      exact hlead

end Plan

theorem chain (base : ℕ) (s : ByteSequence) : Flows base (chainSize s) fun exit => Plan.chain base exit s := by
  induction s generalizing base with
  | nil => exact single (q := .epsilon) fun exit => List.mem_singleton_self exit
  | cons r s ih =>
    have hfirst : Flows base 1 fun exit => [.range r.lo r.hi exit] :=
      .single fun exit => List.mem_singleton_self exit
    cases s with
    | nil => exact hfirst
    | cons r' s =>
      have happend := hfirst.append (ih (base + 1)) (chainSize_pos _)
      rwa [Nat.add_comm] at happend

theorem chains (base : ℕ) (ss : List ByteSequence) :
    Flows base (total (ss.map chainSize)) fun exit => Plan.chains base exit ss := by
  induction ss generalizing base with
  | nil => exact ⟨fun _ => rfl, fun _ i hi => absurd hi (Nat.not_lt_zero i)⟩
  | cons s ss ih => exact (chain base s).beside (ih _)

mutual

/-- From every state of a plan the exit can be reached, or else a choice that nothing can leave. -/
theorem states : ∀ (p : Plan) (base : ℕ), Flows base p.size fun exit => p.states base exit
  | .bytes [], _ => choice (chains _ []) nofun
  | .bytes [s], base => chain base s
  | .bytes (s :: t :: ss), _ => choice (chains _ (s :: t :: ss)) (List.forall_mem_map.mpr fun s _ => chainSize_pos s)
  | .anchor _, _ => single fun exit => List.mem_singleton_self exit
  | .append first second, base => (states first base).append (states second _) (size_pos second)
  | .alternation parts, _ => (branches parts _).choice (sizes_pos parts)
  | .repetition sub min max, base => repetition (states sub) min max base

theorem branches : ∀ (parts : List Plan) (base : ℕ),
    Flows base (total (sizes parts)) fun exit => Plan.branches base exit parts
  | [], _ => ⟨fun _ => rfl, fun _ i hi => absurd hi (Nat.not_lt_zero i)⟩
  | part :: parts, base => (states part base).beside (branches parts _)

end

end Flows

end Nfa

end ConstrainedDecoding.Automaton
