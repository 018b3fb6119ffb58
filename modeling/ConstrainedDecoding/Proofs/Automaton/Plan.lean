import ConstrainedDecoding.Proofs.Automaton.Thompson
import ConstrainedDecoding.Proofs.Except

/-! A plan matches what its expression matches, and takes the states that are counted for it. -/
namespace ConstrainedDecoding.Automaton
open Pattern (Expr Steps Reads Allows)

namespace Plan

variable {limits : CompileLimits} {w : List UInt8}

theorem reserve_eq_ok {count n c : ℕ} :
    reserve limits count n = .ok c ↔ count + n ≤ limits.nfaStates ∧ c = count + n := by
  unfold reserve
  split <;> simp_all [eq_comm]

theorem leaf_eq_ok {count c : ℕ} {p q : Plan} (h : leaf limits count p = .ok (q, c)) :
    q = p ∧ c = count + p.size := by
  simp only [leaf, bind_eq_ok_iff, reserve_eq_ok, pure_eq_ok_iff, Prod.mk.injEq] at h
  obtain ⟨_, ⟨-, rfl⟩, rfl, rfl⟩ := h
  exact ⟨rfl, rfl⟩

theorem anchorOf_eq_ok {a : Pattern.Assertion} {b : Anchor} (h : anchorOf a = .ok b) (i : ℕ) :
    b.HoldsAt w i ↔ a.HoldsAt w i := by
  cases a with
  | start => obtain rfl := Except.ok.inj h; rfl
  | stop => obtain rfl := Except.ok.inj h; rfl
  | _ => simp [anchorOf] at h

theorem matches_empty {i j : ℕ} : empty.Matches w i j ↔ i = j := by
  simp [empty, Matches, ByteSequence.Holds]

theorem size_sequence (p : Plan) (ps : List Plan) :
    (sequence (p :: ps)).size = p.size + total (sizes ps) := by
  induction ps generalizing p with
  | nil => simp [sequence, sizes]
  | cons q ps ih => rw [sequence, size, ih, sizes, total_cons]; simp

theorem matches_sequence (p : Plan) (ps : List Plan) {i j : ℕ} :
    (sequence (p :: ps)).Matches w i j ↔ ∃ k, p.Matches w i k ∧ (sequence ps).Matches w k j := by
  cases ps with
  | nil => simp [sequence, matches_empty]
  | cons q ps =>
    rw [sequence, Matches]
    simp

theorem holds_single {bs cs : List UInt8} :
    ByteSequence.Holds (bs.map Interval.single) cs ↔ bs = cs := by
  have hbyte (b c : UInt8) : Interval.contains (Interval.single b) c ↔ b = c := by
    rw [← UInt8.toNat_inj, Nat.le_antisymm_iff]
    exact (Bool.and_eq_true _ _).to_iff.trans (and_congr decide_eq_true_iff decide_eq_true_iff)
  rw [ByteSequence.Holds, List.forall₂_map_left_iff]
  simp only [hbyte, List.forall₂_eq_eq_eq]

theorem matches_literal {bs : List UInt8} {i j : ℕ} :
    (bytes [bs.map Interval.single]).Matches w i j ↔ Reads w bs i j := by
  simp [Matches, holds_single]

theorem matches_scalars {set : IntervalSet Char} {i j : ℕ} :
    (bytes (set.flatMap ByteSequence.ofInterval)).Matches w i j ↔
      (Expr.scalars set).Matches w i j := by
  simp only [Matches, Expr.Matches, List.mem_flatMap, IntervalSet.contains, List.any_eq_true]
  constructor
  · rintro ⟨s, ⟨r, hr, hs⟩, bs, hbs, hread⟩
    obtain ⟨c, hc, rfl⟩ := (ByteSequence.exists_mem_ofInterval r bs).mp ⟨s, hs, hbs⟩
    exact ⟨c, ⟨r, hr, hc⟩, hread⟩
  · rintro ⟨c, ⟨r, hr, hc⟩, hread⟩
    obtain ⟨s, hs, hbs⟩ := (ByteSequence.exists_mem_ofInterval r _).mpr ⟨c, hc, rfl⟩
    exact ⟨s, ⟨r, hr, hs⟩, _, hbs, hread⟩

theorem matches_bytes {set : IntervalSet UInt8} {i j : ℕ} :
    (bytes (set.map fun r => [r])).Matches w i j ↔ (Expr.bytes set).Matches w i j := by
  simp only [Matches, Expr.Matches, List.mem_map, IntervalSet.contains, List.any_eq_true]
  constructor
  · rintro ⟨_, ⟨r, hr, rfl⟩, bs, hbs, hread⟩
    obtain ⟨b, _, hb, hnil, rfl⟩ := List.forall₂_cons_left_iff.mp hbs
    obtain rfl := List.forall₂_nil_left_iff.mp hnil
    exact ⟨b, ⟨r, hr, hb⟩, hread⟩
  · rintro ⟨b, ⟨r, hr, hb⟩, hread⟩
    exact ⟨[r], ⟨r, hr, rfl⟩, [b], List.Forall₂.cons hb .nil, hread⟩

mutual

/-- The plan of an expression matches what the expression matches. -/
theorem ofExpr_matches : ∀ (e : Expr) {count c : ℕ} {p : Plan}, ofExpr limits count e = .ok (p, c) →
    c = count + p.size ∧ ∀ i j, p.Matches w i j ↔ e.Matches w i j
  | .empty, _, _, _, h => by
    obtain ⟨rfl, rfl⟩ := leaf_eq_ok h
    exact ⟨rfl, fun i j => matches_empty⟩
  | .literal bs, _, _, _, h => by
    obtain ⟨rfl, rfl⟩ := leaf_eq_ok h
    exact ⟨rfl, fun i j => matches_literal⟩
  | .scalars set, _, _, _, h => by
    obtain ⟨rfl, rfl⟩ := leaf_eq_ok h
    exact ⟨rfl, fun i j => matches_scalars⟩
  | .bytes set, _, _, _, h => by
    obtain ⟨rfl, rfl⟩ := leaf_eq_ok h
    exact ⟨rfl, fun i j => matches_bytes⟩
  | .assertion a, _, _, _, h => by
    simp only [ofExpr, bind_eq_ok_iff] at h
    obtain ⟨b, hb, h⟩ := h
    obtain ⟨rfl, rfl⟩ := leaf_eq_ok h
    exact ⟨rfl, fun i j => and_congr_left fun _ => anchorOf_eq_ok hb i⟩
  | .capture _ sub, _, _, _, h => by
    rw [ofExpr] at h
    exact ofExpr_matches sub h
  | .concat [], _, _, _, h => by
    obtain ⟨rfl, rfl⟩ := leaf_eq_ok h
    exact ⟨rfl, fun i j => matches_empty⟩
  | .concat (e :: es), count, _, _, h => by
    simp only [ofExpr, bind_eq_ok_iff, pure_eq_ok_iff, Prod.exists, Prod.mk.injEq] at h
    obtain ⟨p, c, he, ps, c', hes, rfl, rfl⟩ := h
    obtain ⟨rfl, hp⟩ := ofExpr_matches e he
    obtain ⟨rfl, hps, -⟩ := ofExprs_matches es hes
    refine ⟨by rw [size_sequence, Nat.add_assoc], fun i j => ?_⟩
    simp only [matches_sequence, Expr.Matches, Expr.MatchesAll, hp, hps]
  | .alternation es, count, _, _, h => by
    simp only [ofExpr, bind_eq_ok_iff, pure_eq_ok_iff, Prod.exists, Prod.mk.injEq,
      reserve_eq_ok] at h
    obtain ⟨_, ⟨-, rfl⟩, ps, c', hes, rfl, rfl⟩ := h
    obtain ⟨rfl, -, hps⟩ := ofExprs_matches es hes
    refine ⟨by rw [size]; omega, fun i j => ?_⟩
    simp only [Matches, Expr.Matches, hps]
  | .repetition sub min max _, count, _, _, h => by
    simp only [ofExpr] at h
    split at h
    · simp [bind, Except.bind] at h
    · simp only [bind_eq_ok_iff, reserve_eq_ok] at h
      obtain ⟨_, ⟨-, rfl⟩, h⟩ := h
      split at h
      · obtain ⟨rfl, rfl⟩ := ‹min = 0 ∧ max = some 0›
        obtain ⟨rfl, rfl⟩ := Prod.mk.inj (pure_eq_ok_iff.mp h)
        refine ⟨rfl, fun i j => ?_⟩
        simp [matches_empty, Expr.Matches, Pattern.allows_some_iff, Steps]
      · simp only [bind_eq_ok_iff, Prod.exists] at h
        obtain ⟨q, c, hsub, h⟩ := h
        obtain ⟨rfl, rfl⟩ := leaf_eq_ok h
        obtain ⟨-, hq⟩ := ofExpr_matches sub hsub
        exact ⟨rfl, fun i j => by simp only [Matches, Expr.Matches, Pattern.steps_congr hq]⟩

theorem ofExprs_matches : ∀ (es : List Expr) {count c : ℕ} {ps : List Plan},
    ofExprs limits count es = .ok (ps, c) →
      c = count + total (sizes ps) ∧
        (∀ i j, (sequence ps).Matches w i j ↔ Expr.MatchesAll w es i j) ∧
        ∀ i j, MatchesSome w ps i j ↔ Expr.MatchesSome w es i j
  | [], _, _, _, h => by
    obtain ⟨rfl, rfl⟩ := Prod.mk.inj (Except.ok.inj h)
    exact ⟨rfl, fun i j => matches_empty, fun i j => Iff.rfl⟩
  | e :: es, _, _, _, h => by
    simp only [ofExprs, bind_eq_ok_iff, pure_eq_ok_iff, Prod.exists, Prod.mk.injEq] at h
    obtain ⟨p, c, he, ps, c', hes, rfl, rfl⟩ := h
    obtain ⟨rfl, hp⟩ := ofExpr_matches e he
    obtain ⟨rfl, hall, hsome⟩ := ofExprs_matches es hes
    refine ⟨by rw [sizes, total_cons]; omega, fun i j => ?_, fun i j => ?_⟩
    · simp only [matches_sequence, Expr.MatchesAll, hp, hall]
    · simp only [MatchesSome, Expr.MatchesSome, hp, hsome]

end

def Refuses (e : Error) : Prop := e.kind = .pattern ∨ e.kind = .patternTooComplex

theorem reserve_refuses {count n : ℕ} : FailsWith Refuses (reserve limits count n) := by
  unfold reserve
  split
  · exact .ok
  · exact .error (.inr rfl)

theorem leaf_refuses {count : ℕ} {p : Plan} : FailsWith Refuses (leaf limits count p) :=
  reserve_refuses.bind fun _ _ => .ok

theorem anchorOf_refuses {a : Pattern.Assertion} : FailsWith Refuses (anchorOf a) := by
  cases a with
  | start | stop => exact .ok
  | _ => exact .error (.inl rfl)

mutual

theorem ofExpr_refuses : ∀ (e : Expr) {count : ℕ}, FailsWith Refuses (ofExpr limits count e)
  | .empty, _ | .literal _, _ | .scalars _, _ | .bytes _, _ | .concat [], _ => leaf_refuses
  | .assertion _, _ => anchorOf_refuses.bind fun _ _ => leaf_refuses
  | .capture _ sub, _ => ofExpr_refuses sub
  | .concat (e :: es), _ =>
    (ofExpr_refuses e).bind fun _ _ => (ofExprs_refuses es).bind fun _ _ => .ok
  | .alternation es, _ =>
    reserve_refuses.bind fun _ _ => (ofExprs_refuses es).bind fun _ _ => .ok
  | .repetition sub min max _, _ => by
    simp only [ofExpr]
    split
    · exact .bind (.error (.inr rfl)) nofun
    · refine reserve_refuses.bind fun _ _ => ?_
      split
      · exact .ok
      · exact (ofExpr_refuses sub).bind fun _ _ => leaf_refuses

theorem ofExprs_refuses : ∀ (es : List Expr) {count : ℕ}, FailsWith Refuses (ofExprs limits count es)
  | [], _ => .ok
  | e :: es, _ => (ofExpr_refuses e).bind fun _ _ => (ofExprs_refuses es).bind fun _ _ => .ok

end

end Plan

def Nfa.ofPlan (p : Plan) : Nfa := { states := (p.states 0 p.size ++ [NfaState.accept]).toArray, start := 0 }

namespace Nfa

variable {limits : CompileLimits} {w : List UInt8} {nfa : Nfa}

theorem exists_ofPlan {e : Expr} (h : Nfa.ofExpr limits e = .ok nfa) :
    ∃ p c, Plan.ofExpr limits 0 e = .ok (p, c) ∧ nfa = ofPlan p := by
  simp only [Nfa.ofExpr, bind_eq_ok_iff, pure_eq_ok_iff, Prod.exists] at h
  obtain ⟨p, c, hp, _, -, rfl⟩ := h
  obtain ⟨rfl, -⟩ := Plan.ofExpr_matches (w := []) e hp
  exact ⟨p, _, hp, by rw [Nat.zero_add, ofPlan]⟩

theorem accepts_iff_of_accept {s : StateId} {i : ℕ} (hs : nfa.states[s]? = some .accept) :
    nfa.Accepts w s i ↔ i = w.length := by
  constructor
  · rintro ⟨n, hr⟩
    cases n with
    | zero => exact hr.2
    | succ n =>
      obtain ⟨q, t, j, hq, hm, -⟩ := hr
      obtain rfl := Option.some.inj (hs.symm.trans hq)
      exact hm.elim
  · intro hi
    exact ⟨0, hs, hi⟩

theorem lays_toArray (l : List NfaState) (s : StateId) : Lays ⟨l.toArray, s⟩ 0 l := by
  intro k q hk
  rw [Nat.zero_add, List.getElem?_toArray, hk]

/-- The automaton of an expression accepts the texts that the expression matches as a whole. -/
theorem accepts_ofExpr {e : Expr} (h : Nfa.ofExpr limits e = .ok nfa) :
    nfa.Accepts w nfa.start 0 ↔ e.Matches w 0 w.length := by
  simp only [Nfa.ofExpr, bind_eq_ok_iff, pure_eq_ok_iff, Prod.exists] at h
  obtain ⟨p, _, hp, _, -, hnfa⟩ := h
  obtain ⟨rfl, hmatches⟩ := Plan.ofExpr_matches (w := w) e hp
  have hlays := lays_toArray (p.states 0 (0 + p.size) ++ [NfaState.accept]) 0
  rw [hnfa, lays_append, lays_cons, Plan.length_states] at hlays
  obtain ⟨hplan, haccept, -⟩ := hlays
  have hleads := Leads.of_states (w := w) p hplan
  have hstart : nfa.start = 0 := hnfa ▸ rfl
  rw [← hmatches, hstart]
  constructor
  · rintro ⟨n, hr⟩
    obtain ⟨m, -, j, hj, hr⟩ := hleads.leave n 0 (List.mem_singleton_self 0) 0 hr
    obtain rfl := (accepts_iff_of_accept haccept).mp ⟨m, hr⟩
    exact hj
  · intro hj
    obtain ⟨s, hs, ha⟩ := hleads.enter 0 w.length hj ((accepts_iff_of_accept haccept).mpr rfl)
    exact List.mem_singleton.mp hs ▸ ha

theorem ofExpr_refuses {e : Expr} : FailsWith Plan.Refuses (Nfa.ofExpr limits e) :=
  (Plan.ofExpr_refuses e).bind fun _ _ => Plan.reserve_refuses.bind fun _ _ => .ok

end Nfa

end ConstrainedDecoding.Automaton
