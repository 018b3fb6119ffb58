import ConstrainedDecoding.Proofs.Automaton.Run
import ConstrainedDecoding.Proofs.Utf8.Sequence
import Mathlib.Tactic.Ring

/-! The states that are laid out for a plan lead from the first of them to the exit exactly as the plan
matches. -/
namespace ConstrainedDecoding.Automaton
open Pattern (Steps Reads Allows)

namespace Plan

mutual

def Matches (w : List UInt8) : Plan → ℕ → ℕ → Prop
  | bytes alternatives, i, j => ∃ s ∈ alternatives, ∃ bs, ByteSequence.Holds s bs ∧ Reads w bs i j
  | anchor a, i, j => a.HoldsAt w i ∧ i = j
  | append first second, i, j => ∃ k, first.Matches w i k ∧ second.Matches w k j
  | alternation parts, i, j => MatchesSome w parts i j
  | repetition sub min max, i, j => ∃ n, Allows min max n ∧ Steps (sub.Matches w) n i j

def MatchesSome (w : List UInt8) : List Plan → ℕ → ℕ → Prop
  | [], _, _ => False
  | part :: parts, i, j => part.Matches w i j ∨ MatchesSome w parts i j

end

@[simp] theorem total_nil : total [] = 0 := rfl

@[simp] theorem total_cons (n : ℕ) (ns : List ℕ) : total (n :: ns) = n + total ns := rfl

theorem length_chain (base exit : ℕ) (s : ByteSequence) :
    (chain base exit s).length = chainSize s := by
  fun_induction chain base exit s with
  | case1 => rfl
  | case2 => rfl
  | case3 base r s hs ih =>
    cases s with
    | nil => exact absurd rfl hs
    | cons r' s => simpa [chainSize] using ih

theorem length_chains (base exit : ℕ) (ss : List ByteSequence) :
    (chains base exit ss).length = total (ss.map chainSize) := by
  induction ss generalizing base with
  | nil => rfl
  | cons s ss ih => simp [chains, length_chain, ih]

private theorem length_flatMap_range {f : ℕ → List NfaState} {k n : ℕ}
    (hf : ∀ i < k, (f i).length = n) : ((List.range k).flatMap f).length = k * n := by
  induction k with
  | zero => simp
  | succ k ih =>
    rw [List.range_succ, List.flatMap_append, List.length_append, ih fun i hi => hf i (by omega)]
    simp only [List.flatMap_cons, List.flatMap_nil, List.append_nil]
    rw [hf k (Nat.lt_succ_self k), Nat.succ_mul]

mutual

theorem length_states : ∀ (p : Plan) (base exit : ℕ), (p.states base exit).length = p.size
  | bytes [], _, _ => by simp [states, size, chains]
  | bytes [s], base, exit => by rw [states, size, length_chain]
  | bytes (s :: t :: ss), base, exit => by simp [states, size, length_chains]
  | anchor a, _, _ => rfl
  | append first second, base, exit => by
    rw [states, size, List.length_append, length_states first, length_states second]
  | alternation parts, base, exit => by simp [states, size, length_branches parts]
  | repetition sub min none, base, exit => by
    have hsub := length_states sub
    simp only [states, size, List.length_append, List.length_cons, hsub]
    rw [length_flatMap_range fun i _ => hsub _ _]
    omega
  | repetition sub min (some m), base, exit => by
    have hsub := length_states sub
    simp only [states, size, List.length_append, List.length_cons]
    rw [length_flatMap_range fun i _ => hsub _ _]
    split
    · rw [List.length_cons, length_flatMap_range fun j _ => by rw [List.length_cons, hsub]]
      omega
    · rw [List.length_nil]
      omega

theorem length_branches : ∀ (parts : List Plan) (base exit : ℕ),
    (branches base exit parts).length = total (sizes parts)
  | [], _, _ => rfl
  | part :: parts, base, exit => by
    rw [branches, sizes, List.length_append, length_states part, length_branches parts,
      total_cons]

end

end Plan

namespace Nfa

variable {nfa : Nfa} {w : List UInt8}

/-- The automaton has the states of a list from `base` on. -/
def Lays (nfa : Nfa) (base : StateId) (l : List NfaState) : Prop :=
  ∀ k q, l[k]? = some q → nfa.states[base + k]? = some q

theorem lays_cons {base : ℕ} {q : NfaState} {l : List NfaState} :
    nfa.Lays base (q :: l) ↔ nfa.states[base]? = some q ∧ nfa.Lays (base + 1) l := by
  constructor
  · intro h
    refine ⟨h 0 q rfl, fun k r hk => ?_⟩
    have := h (k + 1) r hk
    rwa [show base + 1 + k = base + (k + 1) by omega]
  · rintro ⟨hq, hl⟩ k r hk
    cases k with
    | zero => exact (Option.some.inj hk) ▸ hq
    | succ k =>
      have := hl k r hk
      rwa [show base + (k + 1) = base + 1 + k by omega]

theorem lays_append {base : ℕ} {l₁ l₂ : List NfaState} :
    nfa.Lays base (l₁ ++ l₂) ↔ nfa.Lays base l₁ ∧ nfa.Lays (base + l₁.length) l₂ := by
  induction l₁ generalizing base with
  | nil => simp [Lays]
  | cons q l₁ ih =>
    rw [List.cons_append, lays_cons, lays_cons, ih, and_assoc, List.length_cons,
      show base + 1 + l₁.length = base + (l₁.length + 1) by omega]

theorem Lays.flatMap_range {base : ℕ} {f : ℕ → List NfaState} {k n : ℕ}
    (h : nfa.Lays base ((List.range k).flatMap f)) (hf : ∀ i < k, (f i).length = n) :
    ∀ i < k, nfa.Lays (base + i * n) (f i) := by
  induction k with
  | zero => intro i hi; omega
  | succ k ih =>
    rw [List.range_succ, List.flatMap_append, lays_append,
      Plan.length_flatMap_range fun i hi => hf i (by omega)] at h
    intro i hi
    rcases Nat.lt_succ_iff_lt_or_eq.mp hi with hi | rfl
    · exact ih h.1 (fun i hi => hf i (by omega)) i hi
    · simpa using h.2

namespace Leads

open Plan

theorem chain {base exit : ℕ} {s : ByteSequence} (h : nfa.Lays base (chain base exit s)) :
    nfa.Leads w [base] exit (fun i j => ∃ bs, ByteSequence.Holds s bs ∧ Reads w bs i j) := by
  have hrange : ∀ {base next : ℕ} {r : ByteRange},
      nfa.states[base]? = some (.range r.lo r.hi next) →
      nfa.Leads w [base] next (fun i j => ∃ b, r.contains b ∧ w[i]? = some b ∧ i + 1 = j) :=
    fun hs => (range hs).congr fun i j => by
      simp [Interval.contains, Alphabet.code, UInt8.le_iff_toNat_le]
  fun_induction Plan.chain base exit s with
  | case1 =>
    refine (epsilon (lays_cons.mp h).1).congr fun i j => ?_
    simp [ByteSequence.Holds]
  | case2 base r =>
    refine (hrange (lays_cons.mp h).1).congr fun i j => ?_
    simp [ByteSequence.Holds, List.forall₂_cons_left_iff, Pattern.reads_singleton]
  | case3 base r s hs ih =>
    obtain ⟨hr, hrest⟩ := lays_cons.mp h
    refine ((hrange hr).trans (ih hrest)).congr fun i j => ?_
    simp only [ByteSequence.Holds, List.forall₂_cons_left_iff]
    constructor
    · rintro ⟨k, ⟨b, hb, hw, rfl⟩, bs, hbs, hread⟩
      exact ⟨b :: bs, ⟨b, bs, hb, hbs, rfl⟩, Pattern.reads_cons.mpr ⟨hw, hread⟩⟩
    · rintro ⟨_, ⟨b, bs, hb, hbs, rfl⟩, hread⟩
      obtain ⟨hw, hread⟩ := Pattern.reads_cons.mp hread
      exact ⟨i + 1, ⟨b, hb, hw, rfl⟩, bs, hbs, hread⟩

theorem chains {base exit : ℕ} {ss : List ByteSequence}
    (h : nfa.Lays base (chains base exit ss)) :
    nfa.Leads w (starts base (ss.map chainSize)) exit
      (fun i j => ∃ s ∈ ss, ∃ bs, ByteSequence.Holds s bs ∧ Reads w bs i j) := by
  induction ss generalizing base with
  | nil => exact nil.congr fun i j => by simp
  | cons s ss ih =>
    rw [Plan.chains, lays_append, length_chain] at h
    exact (cons (chain h.1) (ih h.2)).congr fun i j => by simp

theorem copies {k : ℕ} (point : ℕ → ℕ) {R : ℕ → ℕ → Prop}
    (h : ∀ i < k, nfa.Leads w [point i] (point (i + 1)) R) :
    nfa.Leads w [point 0] (point k) (Steps R k) := by
  induction k generalizing point with
  | zero => exact refl
  | succ k ih => exact (h 0 (by omega)).trans (ih (fun i => point (i + 1)) fun i hi => h (i + 1) (by omega))

theorem options {k out : ℕ} (split body : ℕ → ℕ) {R : ℕ → ℕ → Prop}
    (hs : ∀ i < k, nfa.states[split i]? = some (.union [out, body i]))
    (hb : ∀ i < k, nfa.Leads w [body i] (split (i + 1)) R) (hk : split k = out) :
    nfa.Leads w [split 0] out (fun i j => ∃ n ≤ k, Steps R n i j) := by
  induction k generalizing split body with
  | zero =>
    rw [hk]
    exact refl.congr fun i j => by simp [Steps]
  | succ k ih =>
    have hrest := ih (fun i => split (i + 1)) (fun i => body (i + 1))
      (fun i hi => hs (i + 1) (by omega)) (fun i hi => hb (i + 1) (by omega)) hk
    refine (union (hs 0 (by omega)) (cons refl (cons ((hb 0 (by omega)).trans hrest) nil))).congr
      fun i j => ?_
    constructor
    · rintro (rfl | ⟨m, him, n, hn, hmj⟩ | h)
      · exact ⟨0, by omega, rfl⟩
      · exact ⟨n + 1, by omega, m, him, hmj⟩
      · exact h.elim
    · rintro ⟨n, hn, h⟩
      cases n with
      | zero => exact .inl h
      | succ n =>
        obtain ⟨m, him, hmj⟩ := h
        exact .inr (.inl ⟨m, him, n, by omega, hmj⟩)

/-- The mandatory copies of a repetition lead to the state after them. -/
private theorem repetition_copies {sub : Plan} {base after min : ℕ}
    (hsub : ∀ {base exit : ℕ}, nfa.Lays base (sub.states base exit) →
      nfa.Leads w [base] exit (sub.Matches w))
    (h : nfa.Lays base (.epsilon (if 0 < min then base + 1 + 0 * sub.size else after) ::
      (List.range min).flatMap fun i => sub.states (base + 1 + i * sub.size)
        (if i + 1 < min then base + 1 + (i + 1) * sub.size else after))) :
    nfa.Leads w [base] after (Steps (sub.Matches w) min) := by
  obtain ⟨hfirst, hcopies⟩ := lays_cons.mp h
  let point (i : ℕ) : ℕ := if i < min then base + 1 + i * sub.size else after
  have hpoint : ∀ i < min, nfa.Leads w [point i] (point (i + 1)) (sub.Matches w) := by
    intro i hi
    have hi' : point i = base + 1 + i * sub.size := if_pos hi
    rw [hi']
    exact hsub (hcopies.flatMap_range (fun i _ => length_states sub _ _) i hi)
  have hend : point min = after := if_neg (Nat.lt_irrefl min)
  refine ((epsilon hfirst).trans (hend ▸ copies point hpoint)).congr fun i j => ?_
  simp

private theorem repetition_none {sub : Plan} {base exit min : ℕ}
    (hsub : ∀ {base exit : ℕ}, nfa.Lays base (sub.states base exit) →
      nfa.Leads w [base] exit (sub.Matches w))
    (h : nfa.Lays base ((Plan.repetition sub min none).states base exit)) :
    nfa.Leads w [base] exit ((Plan.repetition sub min none).Matches w) := by
  simp only [Plan.states] at h
  obtain ⟨hcopies, hloop⟩ := lays_append.mp h
  rw [List.length_cons, length_flatMap_range fun i _ => length_states sub _ _,
    show base + (min * sub.size + 1) = base + 1 + min * sub.size by omega] at hloop
  obtain ⟨hsplit, hexit, hbody⟩ := lays_cons.mp hloop |>.imp_right lays_cons.mp
  refine (((repetition_copies hsub hcopies).trans (star hsplit (hsub hbody))).trans
    (epsilon hexit)).congr fun i j => ?_
  simp only [Plan.Matches, Allows]
  constructor
  · rintro ⟨_, ⟨k, hk, n, hn⟩, rfl⟩
    exact ⟨min + n, by simp, Pattern.steps_add.mpr ⟨k, hk, hn⟩⟩
  · rintro ⟨n, ⟨hn, -⟩, hs⟩
    rw [← Nat.add_sub_cancel' hn, Pattern.steps_add] at hs
    obtain ⟨k, hk, hj⟩ := hs
    exact ⟨j, ⟨k, hk, _, hj⟩, rfl⟩

private theorem repetition_some {sub : Plan} {base exit min m : ℕ}
    (hsub : ∀ {base exit : ℕ}, nfa.Lays base (sub.states base exit) →
      nfa.Leads w [base] exit (sub.Matches w))
    (h : nfa.Lays base ((Plan.repetition sub min (some m)).states base exit)) :
    nfa.Leads w [base] exit ((Plan.repetition sub min (some m)).Matches w) := by
  simp only [Plan.states] at h
  obtain ⟨hcopies, hrest⟩ := lays_append.mp h
  rw [List.length_cons, length_flatMap_range fun i _ => length_states sub _ _,
    show base + (min * sub.size + 1) = base + 1 + min * sub.size by omega] at hrest
  by_cases hlt : min < m
  · simp only [if_pos hlt] at hcopies hrest
    obtain ⟨hexit, hoptions⟩ := lays_cons.mp hrest
    have hcopy := hoptions.flatMap_range (n := sub.size + 1) fun i _ => by
      rw [List.length_cons, length_states]
    let rest := base + 1 + min * sub.size
    let split (i : ℕ) : ℕ := if i < m - min then rest + 1 + i * (sub.size + 1) else rest
    have hopt : nfa.Leads w [split 0] rest
        (fun i j => ∃ n ≤ m - min, Steps (sub.Matches w) n i j) := by
      refine options split (fun i => rest + 1 + i * (sub.size + 1) + 1) (fun i hi => ?_)
        (fun i hi => ?_) (if_neg (Nat.lt_irrefl _))
      · simp only [split, if_pos hi]
        exact (lays_cons.mp (hcopy i hi)).1
      · have := hsub (lays_cons.mp (hcopy i hi)).2
        simpa only [split, rest, Nat.succ_mul, Nat.add_assoc] using this
    have hstart : split 0 = rest + 1 := by simp [split, hlt]
    refine (((repetition_copies hsub hcopies).trans (hstart ▸ hopt)).trans
      (epsilon hexit)).congr fun i j => ?_
    simp only [Plan.Matches, Pattern.allows_some_iff hlt.le]
    constructor
    · rintro ⟨_, ⟨k, hk, n, hn, hs⟩, rfl⟩
      exact ⟨min + n, by omega, Pattern.steps_add.mpr ⟨k, hk, hs⟩⟩
    · rintro ⟨n, ⟨hn, hnm⟩, hs⟩
      rw [← Nat.add_sub_cancel' hn, Pattern.steps_add] at hs
      obtain ⟨k, hk, hj⟩ := hs
      exact ⟨j, ⟨k, hk, _, by omega, hj⟩, rfl⟩
  · simp only [if_neg hlt] at hcopies
    refine (repetition_copies hsub hcopies).congr fun i j => ?_
    simp only [Plan.Matches, Allows, Option.mem_some_iff, forall_eq', Nat.max_eq_max,
      max_eq_left (not_lt.mp hlt)]
    constructor
    · intro hs
      exact ⟨min, ⟨le_rfl, le_rfl⟩, hs⟩
    · rintro ⟨n, ⟨hn, hnm⟩, hs⟩
      exact le_antisymm hnm hn ▸ hs

mutual

/-- The states of a plan lead from the first of them to the exit as the plan matches. -/
theorem of_states : ∀ (p : Plan) {base exit : ℕ}, nfa.Lays base (p.states base exit) →
    nfa.Leads w [base] exit (p.Matches w)
  | .bytes [], _, _, h => by
    obtain ⟨hunion, -⟩ := lays_cons.mp h
    exact (union hunion nil).congr fun i j => by simp [Plan.Matches]
  | .bytes [s], _, _, h => (chain h).congr fun i j => by simp [Plan.Matches]
  | .bytes (s :: t :: ss), _, _, h => by
    obtain ⟨hunion, hexit, hchains⟩ := (lays_cons.mp h).imp_right lays_cons.mp
    refine (union hunion ((chains hchains).trans (epsilon hexit))).congr fun i j => ?_
    simp [Plan.Matches]
  | .anchor _, _, _, h => anchor (lays_cons.mp h).1
  | .append first second, base, exit, h => by
    rw [Plan.states, lays_append, length_states] at h
    exact (of_states first h.1).trans (of_states second h.2)
  | .alternation parts, _, _, h => by
    obtain ⟨hunion, hexit, hbranches⟩ := (lays_cons.mp h).imp_right lays_cons.mp
    refine (union hunion ((of_branches parts hbranches).trans (epsilon hexit))).congr fun i j => ?_
    simp [Plan.Matches]
  | .repetition sub _ none, _, _, h => repetition_none (of_states sub) h
  | .repetition sub _ (some _), _, _, h => repetition_some (of_states sub) h

theorem of_branches : ∀ (parts : List Plan) {base exit : ℕ}, nfa.Lays base (branches base exit parts) →
    nfa.Leads w (starts base (sizes parts)) exit (Plan.MatchesSome w parts)
  | [], _, _, _ => nil
  | part :: parts, base, exit, h => by
    rw [branches, lays_append, length_states] at h
    exact cons (of_states part h.1) (of_branches parts h.2)

end

end Leads

end Nfa

end ConstrainedDecoding.Automaton
