import ConstrainedDecoding.Automaton.Compile
import ConstrainedDecoding.Proofs.Automaton.Builder
import ConstrainedDecoding.Proofs.Automaton.Exits

/-! Nothing dangles in an automaton: all targets are states, there is one accepting state and it is the last,
ranges have their ends in order, and the accepting state or a choice that nothing can leave is reached
from everywhere. While it is built, every fragment is patched once.
-/
namespace ConstrainedDecoding

namespace Pattern.Expr

mutual

/-- The ranges of the byte classes of an expression have their ends in order. -/
def OrderedClasses : Expr → Prop
  | .bytes set => ∀ r ∈ set, r.lo ≤ r.hi
  | .repetition sub _ _ _ => sub.OrderedClasses
  | .capture _ sub => sub.OrderedClasses
  | .concat es => AllOrderedClasses es
  | .alternation es => AllOrderedClasses es
  | .empty | .literal _ | .scalars _ | .assertion _ => True

def AllOrderedClasses : List Expr → Prop
  | [] => True
  | e :: es => e.OrderedClasses ∧ AllOrderedClasses es

end

end Pattern.Expr

namespace Automaton

open Pattern (Expr)
open Relation (ReflTransGen)

namespace NfaState

def range? : NfaState → Option ByteRange
  | .range lo hi _ => some ⟨lo, hi⟩
  | .epsilon _ | .union _ | .anchor _ _ | .accept => none

theorem mem_targets_of_target? {q : NfaState} {t : StateId} (h : q.target? = some t) : t ∈ q.targets := by
  cases q <;> first | exact List.mem_singleton.mpr (Option.some.inj h).symm | cases h

/-- A state that does not accept, and reads a range of a list if anything. -/
structure Inner (rs : List ByteRange) (q : NfaState) : Prop where
  ne_accept : q ≠ .accept
  mem : ∀ r ∈ q.range?, r ∈ rs

namespace Inner

variable {rs : List ByteRange}

theorem range {r : ByteRange} (h : r ∈ rs) (t : StateId) : Inner rs (.range r.lo r.hi t) :=
  ⟨nofun, fun _ hr => Option.some.inj hr ▸ h⟩

theorem epsilon (t : StateId) : Inner rs (.epsilon t) := ⟨nofun, nofun⟩

theorem union (ts : List StateId) : Inner rs (.union ts) := ⟨nofun, nofun⟩

theorem anchor (a : Anchor) (t : StateId) : Inner rs (.anchor a t) := ⟨nofun, nofun⟩

theorem mono {rs' : List ByteRange} {q : NfaState} (h : Inner rs q) (hsub : rs ⊆ rs') : Inner rs' q :=
  ⟨h.ne_accept, fun r hr => hsub (h.mem r hr)⟩

end Inner

end NfaState

namespace Plan

open NfaState (Inner)

mutual

def ranges : Plan → List ByteRange
  | .bytes alternatives => alternatives.flatten
  | .anchor _ => []
  | .append first second => first.ranges ++ second.ranges
  | .alternation parts => rangesOf parts
  | .repetition sub _ _ => sub.ranges

def rangesOf : List Plan → List ByteRange
  | [] => []
  | part :: parts => part.ranges ++ rangesOf parts

end

theorem inner_chain {base exit : ℕ} {s : ByteSequence} : ∀ q ∈ chain base exit s, Inner s q := by
  fun_induction chain base exit s with
  | case1 => simpa using Inner.epsilon _
  | case2 => simpa using Inner.range List.mem_cons_self _
  | case3 base r s _ ih =>
    intro q hq
    rcases List.mem_cons.mp hq with rfl | hq
    · exact .range List.mem_cons_self _
    · exact (ih q hq).mono (List.subset_cons_self r s)

theorem inner_chains {base exit : ℕ} {ss : List ByteSequence} : ∀ q ∈ chains base exit ss, Inner ss.flatten q := by
  induction ss generalizing base with
  | nil => nofun
  | cons s ss ih =>
    intro q hq
    rw [List.flatten_cons]
    rcases List.mem_append.mp hq with hq | hq
    · exact (inner_chain q hq).mono (List.subset_append_left s _)
    · exact (ih q hq).mono (List.subset_append_right s _)

private theorem inner_choice {ts : List StateId} {exit : ℕ} {l : List NfaState} {rs : List ByteRange}
    (h : ∀ q ∈ l, Inner rs q) : ∀ q ∈ .union ts :: .epsilon exit :: l, Inner rs q :=
  List.forall_mem_cons.mpr ⟨.union ts, List.forall_mem_cons.mpr ⟨.epsilon exit, h⟩⟩

mutual

/-- The states of a plan read its ranges only, and none of them accepts. -/
theorem inner_states : ∀ (p : Plan) {base exit : ℕ}, ∀ q ∈ p.states base exit, Inner p.ranges q
  | .bytes [], _, _ => inner_choice nofun
  | .bytes [s], _, _ => fun q hq => (inner_chain q hq).mono (by simp [ranges])
  | .bytes (s :: t :: ss), _, _ => inner_choice inner_chains
  | .anchor a, _, _ => List.forall_mem_singleton.mpr (.anchor a _)
  | .append first second, _, _ => List.forall_mem_append.mpr
    ⟨fun q hq => (inner_states first q hq).mono (List.subset_append_left ..),
      fun q hq => (inner_states second q hq).mono (List.subset_append_right ..)⟩
  | .alternation parts, _, _ => inner_choice (inner_branches parts)
  | .repetition sub min max, _, _ => by
    have hsub {base exit : ℕ} : ∀ q ∈ sub.states base exit, Inner sub.ranges q := inner_states sub
    simp only [states, ranges]
    refine List.forall_mem_append.mpr ⟨List.forall_mem_cons.mpr ⟨.epsilon _, ?_⟩, ?_⟩
    · exact List.forall_mem_flatMap.mpr fun i _ => hsub
    · cases max with
      | none => exact inner_choice hsub
      | some m =>
        dsimp only
        split
        · exact List.forall_mem_cons.mpr ⟨.epsilon _, List.forall_mem_flatMap.mpr fun j _ =>
            List.forall_mem_cons.mpr ⟨.union _, hsub⟩⟩
        · nofun

theorem inner_branches : ∀ (parts : List Plan) {base exit : ℕ},
    ∀ q ∈ branches base exit parts, Inner (rangesOf parts) q
  | [], _, _ => nofun
  | part :: parts, _, _ => List.forall_mem_append.mpr
    ⟨fun q hq => (inner_states part q hq).mono (List.subset_append_left ..),
      fun q hq => (inner_branches parts q hq).mono (List.subset_append_right ..)⟩

end

theorem ranges_sequence (ps : List Plan) : (sequence ps).ranges = rangesOf ps := by
  induction ps with
  | nil => rfl
  | cons p ps ih =>
    cases ps with
    | nil => simp [sequence, rangesOf]
    | cons p' ps => exact congrArg (p.ranges ++ ·) ih

variable {limits : CompileLimits}

mutual

theorem lo_le_hi_of_ofExpr : ∀ (e : Expr) {count c : ℕ} {p : Plan}, ofExpr limits count e = .ok (p, c) →
    e.OrderedClasses → ∀ r ∈ p.ranges, r.lo ≤ r.hi
  | .empty, _, _, _, h, _ => by
    obtain ⟨rfl, -⟩ := leaf_eq_ok h
    nofun
  | .literal bs, _, _, _, h, _ => by
    obtain ⟨rfl, -⟩ := leaf_eq_ok h
    simp [ranges, Interval.single]
  | .scalars set, _, _, _, h, _ => by
    obtain ⟨rfl, -⟩ := leaf_eq_ok h
    intro r hr
    obtain ⟨s, hs, hr⟩ := List.mem_flatten.mp hr
    obtain ⟨i, -, hs⟩ := List.mem_flatMap.mp hs
    exact ByteSequence.lo_le_hi_of_mem_ofInterval hs r hr
  | .bytes set, _, _, _, h, hordered => by
    obtain ⟨rfl, -⟩ := leaf_eq_ok h
    intro r hr
    obtain ⟨s, hs, hr⟩ := List.mem_flatten.mp hr
    obtain ⟨r', hr', rfl⟩ := List.mem_map.mp hs
    exact List.mem_singleton.mp hr ▸ hordered r' hr'
  | .assertion a, _, _, _, h, _ => by
    simp only [ofExpr, bind_eq_ok_iff] at h
    obtain ⟨b, -, h⟩ := h
    obtain ⟨rfl, -⟩ := leaf_eq_ok h
    nofun
  | .capture _ sub, _, _, _, h, hordered => lo_le_hi_of_ofExpr sub h hordered
  | .concat [], _, _, _, h, _ => by
    obtain ⟨rfl, -⟩ := leaf_eq_ok h
    nofun
  | .concat (e :: es), _, _, _, h, hordered => by
    simp only [ofExpr, bind_eq_ok_iff, pure_eq_ok_iff, Prod.exists, Prod.mk.injEq] at h
    obtain ⟨p, _, he, ps, _, hes, rfl, -⟩ := h
    rw [ranges_sequence]
    exact List.forall_mem_append.mpr
      ⟨lo_le_hi_of_ofExpr e he hordered.1, lo_le_hi_of_ofExprs es hes hordered.2⟩
  | .alternation es, _, _, _, h, hordered => by
    simp only [ofExpr, bind_eq_ok_iff, pure_eq_ok_iff, Prod.exists, Prod.mk.injEq] at h
    obtain ⟨_, -, ps, _, hes, rfl, -⟩ := h
    exact lo_le_hi_of_ofExprs es hes hordered
  | .repetition sub min max _, _, _, _, h, hordered => by
    rw [ofExpr] at h
    split at h
    · cases h
    · simp only [bind_eq_ok_iff] at h
      obtain ⟨_, -, h⟩ := h
      split at h
      · obtain ⟨rfl, -⟩ := Prod.mk.inj (pure_eq_ok_iff.mp h)
        nofun
      · simp only [bind_eq_ok_iff, Prod.exists] at h
        obtain ⟨q, _, hsub, h⟩ := h
        obtain ⟨rfl, -⟩ := leaf_eq_ok h
        exact fun r hr => lo_le_hi_of_ofExpr sub hsub hordered r hr

theorem lo_le_hi_of_ofExprs : ∀ (es : List Expr) {count c : ℕ} {ps : List Plan},
    ofExprs limits count es = .ok (ps, c) → Expr.AllOrderedClasses es → ∀ r ∈ rangesOf ps, r.lo ≤ r.hi
  | [], _, _, _, h, _ => by
    obtain ⟨rfl, -⟩ := Prod.mk.inj (Except.ok.inj h)
    nofun
  | e :: es, _, _, _, h, hordered => by
    simp only [ofExprs, bind_eq_ok_iff, pure_eq_ok_iff, Prod.exists, Prod.mk.injEq] at h
    obtain ⟨p, _, he, ps, _, hes, rfl, -⟩ := h
    exact List.forall_mem_append.mpr
      ⟨lo_le_hi_of_ofExpr e he hordered.1, lo_le_hi_of_ofExprs es hes hordered.2⟩

end

end Plan

namespace Nfa

variable {limits : CompileLimits}

theorem size_ofPlan (p : Plan) : (ofPlan p).states.size = p.size + 1 := by
  simp [ofPlan, Plan.length_states]

theorem lays_ofPlan (p : Plan) :
    (ofPlan p).Lays 0 (p.states 0 p.size) ∧ (ofPlan p).states[p.size]? = some .accept := by
  have h := lays_toArray (p.states 0 p.size ++ [NfaState.accept]) 0
  rw [lays_append, lays_cons, Plan.length_states, Nat.zero_add] at h
  exact ⟨h.1, h.2.1⟩

theorem cases_ofPlan {p : Plan} {s : ℕ} {q : NfaState} (h : (ofPlan p).states[s]? = some q) :
    s < p.size ∧ q ∈ p.states 0 p.size ∨ s = p.size ∧ q = .accept := by
  rw [ofPlan, List.getElem?_toArray, List.getElem?_append, Plan.length_states] at h
  split at h
  · exact .inl ⟨‹_›, List.mem_of_getElem? h⟩
  · obtain ⟨hlt, rfl⟩ := List.getElem?_eq_some_iff.mp h
    have hs : s = p.size := by
      rw [List.length_singleton] at hlt
      omega
    exact .inr ⟨hs, List.getElem_singleton ..⟩

theorem lt_of_edge {p : Plan} {s t : ℕ} (h : (ofPlan p).Edge s t) : t < (ofPlan p).states.size := by
  obtain ⟨q, hq, ht⟩ := h
  rw [size_ofPlan]
  rcases cases_ofPlan hq with ⟨-, hq⟩ | ⟨-, rfl⟩
  · rcases p.mem_targets 0 p.size q hq t ht with ⟨-, hlt⟩ | rfl
    · exact Nat.lt_succ_of_lt (Nat.zero_add p.size ▸ hlt)
    · exact Nat.lt_succ_self _
  · exact absurd ht List.not_mem_nil

theorem accept_ofPlan_iff {p : Plan} {s : ℕ} :
    (ofPlan p).states[s]? = some .accept ↔ s + 1 = (ofPlan p).states.size := by
  rw [size_ofPlan, Nat.add_right_cancel_iff]
  constructor
  · intro h
    rcases cases_ofPlan h with ⟨-, hq⟩ | ⟨hs, -⟩
    · exact absurd rfl (p.inner_states _ hq).ne_accept
    · exact hs
  · rintro rfl
    exact (lays_ofPlan p).2

/-- Every state leads to the accepting state, or to a choice that nothing can leave. -/
theorem reaches_ofPlan {p : Plan} {s : ℕ} (hs : s < (ofPlan p).states.size) :
    ∃ t, ReflTransGen (ofPlan p).Edge s t ∧
      ((ofPlan p).states[t]? = some .accept ∨ (ofPlan p).states[t]? = some (.union [])) := by
  rw [size_ofPlan] at hs
  obtain ⟨hstates, haccept⟩ := lays_ofPlan p
  rcases Nat.lt_succ_iff_lt_or_eq.mp hs with hlt | rfl
  · obtain ⟨t, ht, rfl | hdead⟩ := (Flows.states p 0).escapes hstates s hlt
    · exact ⟨_, Nat.zero_add s ▸ ht, .inl haccept⟩
    · exact ⟨t, Nat.zero_add s ▸ ht, .inr hdead⟩
  · exact ⟨_, .refl, .inl haccept⟩

/-- Fragments end in open states, each of which is patched once. -/
theorem patched_once {e : Expr} {p : Plan} (h : Nfa.ofExpr limits e = .ok (ofPlan p))
    (hsize : (ofPlan p).states.size ≤ unset) :
    ∃ events, Builder.ofExpr limits e = .ok (ofPlan p, events) ∧ ∀ f last, BuildEvent.made f last ∈ events →
      (∃ q, last = some q ∧ q.target? = some unset) ∧ events.countP (·.Patches f.stop) = 1 := by
  have hagrees := Builder.ofExpr_agrees limits e
  rw [h] at hagrees
  obtain ⟨⟨_, events⟩, hevents, rfl, htidy⟩ := hagrees.exists_ok
  have htidy := htidy hsize
  refine ⟨events, hevents, fun f last hf => ?_⟩
  obtain ⟨hlast, q, hq, hsome⟩ := htidy.ends f last hf
  obtain ⟨t, ht⟩ := Option.ne_none_iff_exists'.mp hsome
  have hedge : (ofPlan p).Edge f.stop t := ⟨q, hq, NfaState.mem_targets_of_target? ht⟩
  refine ⟨hlast, (htidy.once f.stop q t hq ht).trans (if_neg ?_)⟩
  exact ((lt_of_edge hedge).trans_le hsize).ne

/-- Nothing dangles in the automaton of a pattern that has fewer states than there are numbers for them. The
ranges of byte classes are taken to be in order; those of scalar values need not be. -/
theorem nothing_dangles {text : String} {nfa : Nfa} (h : Nfa.ofPattern limits text = .ok nfa)
    (hsize : nfa.states.size < 2 ^ 32) :
    nfa.start < nfa.states.size ∧
    (∀ s t, nfa.Edge s t → t < nfa.states.size ∧ t ≠ unset) ∧
    (∀ s : StateId, nfa.states[s]? = some .accept ↔ s + 1 = nfa.states.size) ∧
    (∀ s < nfa.states.size, ∃ t, ReflTransGen nfa.Edge s t ∧
      (nfa.states[t]? = some .accept ∨ nfa.states[t]? = some (.union []))) ∧
    ∃ e : Expr, parsePattern limits text = .ok e ∧
      (e.OrderedClasses → ∀ (s : StateId) lo hi t, nfa.states[s]? = some (NfaState.range lo hi t) → lo ≤ hi) ∧
      ∃ events, Builder.ofExpr limits e = .ok (nfa, events) ∧ ∀ f last, BuildEvent.made f last ∈ events →
        (∃ q, last = some q ∧ q.target? = some unset) ∧ events.countP (·.Patches f.stop) = 1 := by
  obtain ⟨e, hparse, he⟩ := bind_eq_ok_iff.mp h
  obtain ⟨p, c, hp, rfl⟩ := exists_ofPlan he
  have hunset : (ofPlan p).states.size ≤ unset := Nat.le_of_lt_succ hsize
  refine ⟨size_ofPlan p ▸ Nat.succ_pos _, fun s t hst => ⟨lt_of_edge hst, ((lt_of_edge hst).trans_le hunset).ne⟩,
    fun s => accept_ofPlan_iff, fun s => reaches_ofPlan, e, hparse, fun hordered s lo hi t hs => ?_,
    patched_once he hunset⟩
  rcases cases_ofPlan hs with ⟨-, hq⟩ | ⟨-, hq⟩
  · exact Plan.lo_le_hi_of_ofExpr e hp hordered _ ((p.inner_states _ hq).mem _ rfl)
  · cases hq

/-- The automaton of a loop and an option: `a*b?`. -/
def loopThenOption : Nfa where
  states := #[.epsilon 1, .union [3, 2], .epsilon 4, .range 97 97 1, .epsilon 6, .epsilon 8, .union [5, 7],
    .range 98 98 5, .accept]
  start := 0

theorem nothing_dangles_loopThenOption :
    Nfa.ofPattern {} "a*b?" = .ok loopThenOption ∧ loopThenOption.states.size < 2 ^ 32 ∧
      (∀ s t, loopThenOption.Edge s t → t < 9 ∧ t ≠ unset) ∧
      ∃ e events, Builder.ofExpr {} e = .ok (loopThenOption, events) ∧
        ∀ f last, BuildEvent.made f last ∈ events → events.countP (·.Patches f.stop) = 1 := by
  have hnfa : Nfa.ofPattern {} "a*b?" = .ok loopThenOption := by cbv
  have hsize : loopThenOption.states.size < 2 ^ 32 := by decide
  obtain ⟨-, hedge, -, -, e, -, -, events, hevents, honce⟩ := nothing_dangles hnfa hsize
  exact ⟨hnfa, hsize, hedge, e, events, hevents, fun f last hf => (honce f last hf).2⟩

end Nfa

end Automaton

end ConstrainedDecoding
