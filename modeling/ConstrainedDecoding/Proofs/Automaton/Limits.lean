import ConstrainedDecoding.Proofs.Automaton.Compile
import ConstrainedDecoding.Proofs.Automaton.Determinize

/-! Limits. With larger ones nothing changes but that fewer patterns are refused as too complex, and an
automaton is refused for its size only if it has more states than the limit. -/
namespace ConstrainedDecoding.Automaton
open Pattern (Expr)
namespace Plan

variable {limits limits' : CompileLimits}

def Avoidable (limits limits' : CompileLimits) (e : Error) : Prop :=
  e = .tooComplex .nfaStates limits.nfaStates ∨
    limits.repetition < limits'.repetition ∧ e = .tooComplex .repetition limits.repetition

/-- Whatever fits within the first limits after `count` states fits within the others after `count'`. The limits
may differ, or what was counted before. -/
structure Roomier (limits : CompileLimits) (count : ℕ) (limits' : CompileLimits) (count' : ℕ) : Prop where
  repetition : limits.repetition ≤ limits'.repetition
  states : limits.nfaStates + count' ≤ limits'.nfaStates + count

def Alike (count count' c c' : ℕ) : Prop := c + count' = c' + count

theorem Alike.trans {count count' c c' d d' : ℕ} (h : Alike count count' c c') (h' : Alike c c' d d') :
    Alike count count' d d' := by
  unfold Alike at *
  omega

theorem Roomier.alike {count count' c c' : ℕ} (h : Roomier limits count limits' count')
    (hc : Alike count count' c c') : Roomier limits c limits' c' :=
  ⟨h.repetition, by have := h.states; unfold Alike at hc; omega⟩

variable {count count' : ℕ}

theorem reserve_inStep (h : Roomier limits count limits' count') (n : ℕ) :
    InStep (Avoidable limits limits') (Alike count count') (reserve limits count n)
      (reserve limits' count' n) := by
  have := h.states
  unfold reserve
  split
  · rw [if_pos (by omega)]
    exact .ok (by unfold Alike; omega)
  · exact .refused (.inl rfl)

theorem leaf_inStep (h : Roomier limits count limits' count') (p : Plan) :
    InStep (Avoidable limits limits') (fun a b => a.1 = b.1 ∧ Alike count count' a.2 b.2)
      (leaf limits count p) (leaf limits' count' p) :=
  (reserve_inStep h p.size).bind fun _ _ _ hc => .ok ⟨rfl, hc⟩

theorem count_within {n n' min : ℕ} {max : Option ℕ} (hle : n ≤ n')
    (h : ¬ (n < min || max.any (n < ·)) = true) : ¬ (n' < min || max.any (n' < ·)) = true := by
  cases max with
  | none =>
    simp only [Option.any_none, Bool.or_false, decide_eq_true_eq] at h ⊢
    omega
  | some m =>
    simp only [Option.any_some, Bool.or_eq_true, decide_eq_true_eq] at h ⊢
    omega

mutual

/-- Both constructions make the same plan, until the first one runs into a limit. -/
theorem ofExpr_inStep : ∀ (e : Expr) {count count' : ℕ}, Roomier limits count limits' count' →
    InStep (Avoidable limits limits') (fun a b => a.1 = b.1 ∧ Alike count count' a.2 b.2)
      (ofExpr limits count e) (ofExpr limits' count' e)
  | .empty, _, _, h | .literal _, _, _, h | .scalars _, _, _, h | .bytes _, _, _, h
  | .concat [], _, _, h => leaf_inStep h _
  | .assertion a, _, _, h =>
    (InStep.refl (fun _ => rfl) (anchorOf a)).bind fun b b' _ hb => hb ▸ leaf_inStep h (.anchor b)
  | .capture _ sub, _, _, h => ofExpr_inStep sub h
  | .concat (e :: es), _, _, h =>
    (ofExpr_inStep e h).bind fun _ _ _ ha => (ofExprs_inStep es (h.alike ha.2)).bind fun _ _ _ hb =>
      .ok ⟨by rw [ha.1, hb.1], ha.2.trans hb.2⟩
  | .alternation es, _, _, h =>
    (reserve_inStep h 2).bind fun _ _ _ hc => (ofExprs_inStep es (h.alike hc)).bind fun _ _ _ hb =>
      .ok ⟨by rw [hb.1], hc.trans hb.2⟩
  | .repetition sub min max _, _, _, h => by
    simp only [ofExpr]
    by_cases hover : (limits.repetition < min || max.any (limits.repetition < ·)) = true
    · -- the message names the limit, so that refusals under two limits differ
      rw [if_pos hover]
      rcases h.repetition.lt_or_eq with hlt | heq
      · exact .refused (.inr ⟨hlt, rfl⟩)
      · rw [← heq, if_pos hover]
        exact .error _
    · rw [if_neg hover, if_neg (count_within h.repetition hover)]
      refine (reserve_inStep h _).bind fun lead lead' _ hlead => ?_
      split
      · exact .ok ⟨rfl, hlead⟩
      · refine (ofExpr_inStep sub (h.alike hlead)).bind fun a b _ hab => ?_
        rw [hab.1]
        exact leaf_inStep h _

theorem ofExprs_inStep : ∀ (es : List Expr) {count count' : ℕ}, Roomier limits count limits' count' →
    InStep (Avoidable limits limits') (fun a b => a.1 = b.1 ∧ Alike count count' a.2 b.2)
      (ofExprs limits count es) (ofExprs limits' count' es)
  | [], _, _, _ => .ok ⟨rfl, by unfold Alike; omega⟩
  | e :: es, _, _, h =>
    (ofExpr_inStep e h).bind fun _ _ _ ha => (ofExprs_inStep es (h.alike ha.2)).bind fun _ _ _ hb =>
      .ok ⟨by rw [ha.1, hb.1], ha.2.trans hb.2⟩

end

end Plan

variable {limits limits' : CompileLimits} {nfa : Nfa}

theorem Nfa.ofExpr_inStep (hrep : limits.repetition ≤ limits'.repetition)
    (hstates : limits.nfaStates ≤ limits'.nfaStates) (e : Expr) :
    InStep (Plan.Avoidable limits limits') Eq (Nfa.ofExpr limits e) (Nfa.ofExpr limits' e) := by
  have hroom : Plan.Roomier limits 0 limits' 0 := ⟨hrep, hstates⟩
  refine (Plan.ofExpr_inStep e hroom).bind fun a b _ hab => ?_
  refine (Plan.reserve_inStep (hroom.alike hab.2) 1).bind fun _ _ _ _ => ?_
  rw [show a.2 = b.2 from hab.2, hab.1]
  exact .ok rfl

theorem determinize_inStep (hle : limits.dfaStates ≤ limits'.dfaStates) (nfa : Nfa) :
    InStep (· = .tooComplex .dfaStates limits.dfaStates) Eq (determinize limits nfa) (determinize limits' nfa) := by
  rw [determinize_eq, determinize_eq]
  cases nfa.close? [nfa.start] true with
  | none => exact .error _
  | some S =>
    have hfirst : Numbering.Sighted limits.dfaStates nfa.targets S [S] := Numbering.sighted_singleton
    refine (Numbering.search_inStep hle hfirst (Nat.add_zero _) (max_le_max_right 1 hle)).bind ?_
    exact fun _ _ _ h => .ok (by rw [h])

theorem Dfa.ofNfa_inStep (hle : limits.dfaStates ≤ limits'.dfaStates) (nfa : Nfa) :
    InStep (· = .tooComplex .dfaStates limits.dfaStates) Eq (Dfa.ofNfa limits nfa) (Dfa.ofNfa limits' nfa) :=
  (determinize_inStep hle nfa).bind fun _ _ _ h => h ▸ .refl (fun _ => rfl) _

def TooComplex (e : Error) : Prop := e.kind = .patternTooComplex

theorem parsePattern_inStep (hle : limits.patternLength ≤ limits'.patternLength) (text : String) :
    InStep TooComplex Eq (parsePattern limits text) (parsePattern limits' text) := by
  unfold parsePattern
  split
  · exact .refused rfl
  · rw [if_neg (by omega)]
    exact .refl (fun _ => rfl) _

structure Within (limits limits' : CompileLimits) : Prop where
  patternLength : limits.patternLength ≤ limits'.patternLength
  repetition : limits.repetition ≤ limits'.repetition
  nfaStates : limits.nfaStates ≤ limits'.nfaStates
  dfaStates : limits.dfaStates ≤ limits'.dfaStates

theorem Within.compile_inStep (h : Within limits limits') (text : String) :
    InStep TooComplex Eq (compile limits text) (compile limits' text) := by
  refine InStep.bind (R := Eq) ?_ fun nfa _ _ hnfa => hnfa ▸ (Dfa.ofNfa_inStep h.dfaStates nfa).mono ?_
  · refine (parsePattern_inStep h.patternLength text).bind fun e _ _ he => he ▸ ?_
    refine (Nfa.ofExpr_inStep h.repetition h.nfaStates e).mono ?_
    rintro _ (rfl | ⟨-, rfl⟩) <;> rfl
  · rintro _ rfl
    rfl

theorem exists_within (limits limits' : CompileLimits) :
    ∃ larger, Within limits larger ∧ Within limits' larger := by
  let larger : CompileLimits := {
    patternLength := max limits.patternLength limits'.patternLength
    repetition := max limits.repetition limits'.repetition
    nfaStates := max limits.nfaStates limits'.nfaStates
    dfaStates := max limits.dfaStates limits'.dfaStates }
  refine ⟨larger, ?_, ?_⟩
  · constructor <;> exact le_max_left _ _
  · constructor <;> exact le_max_right _ _

/-- A pattern has one automaton under all limits that do not refuse it. -/
theorem compile_inStep {text : String} {d : Dfa} (h : compile limits text = .ok d) (limits' : CompileLimits) :
    InStep TooComplex Eq (compile limits' text) (.ok d) := by
  -- neither limits need be larger, so both are compared with limits above them
  obtain ⟨larger, hlarger, hlarger'⟩ := exists_within limits limits'
  have hstep := hlarger.compile_inStep text
  rw [h] at hstep
  obtain ⟨d', hd', rfl⟩ := hstep.exists_ok
  have hstep' := hlarger'.compile_inStep text
  rwa [hd'] at hstep'

/-- Limits refuse patterns, and do not change what becomes of those that are not refused. -/
theorem compile_eq_of_within (h : Within limits limits') (text : String)
    (hc : ∀ e, compile limits text = .error e → e.kind ≠ .patternTooComplex) :
    compile limits' text = compile limits text :=
  (h.compile_inStep text).eq hc

/-- The automaton of `a{2}`. -/
def twice : Nfa := { states := #[.epsilon 1, .range 97 97 2, .range 97 97 3, .accept], start := 0 }

/-- The least limits with which `a{2}` compiles. -/
def twiceLimits : CompileLimits := { patternLength := 4, repetition := 2, nfaStates := 4, dfaStates := 3 }

private theorem ofPattern_twice : Nfa.ofPattern twiceLimits "a\x7b2\x7d" = .ok twice := by cbv

private theorem representatives_twice : (ByteClasses.ofNfa twice).representatives = #[0, 97, 98] := by
  rw [ByteClasses.representatives_ofNfa]
  decide +kernel

private theorem ofNfa_twice : ∃ d, Dfa.ofNfa twiceLimits twice = .ok d := by
  have hok : (Dfa.ofNfa twiceLimits twice).isOk := by
    simp only [Dfa.ofNfa, determinize, representatives_twice]
    generalize ByteClasses.ofNfa twice = classes
    cbv
  exact exists_of_isOk hok

/-- With the usual limits, `a{2}` has the automaton that it has with the least ones. -/
theorem compile_eq_twice : Within twiceLimits {} ∧ (∃ d, compile twiceLimits "a\x7b2\x7d" = .ok d) ∧
    compile {} "a\x7b2\x7d" = compile twiceLimits "a\x7b2\x7d" := by
  obtain ⟨d, hd⟩ : ∃ d, compile twiceLimits "a\x7b2\x7d" = .ok d := by
    rw [compile, ofPattern_twice]
    exact ofNfa_twice
  have hwithin : Within twiceLimits {} := by constructor <;> decide
  refine ⟨hwithin, ⟨d, hd⟩, compile_eq_of_within hwithin _ fun e he => ?_⟩
  rw [hd] at he
  cases he

section Visits

variable {S T : StateSet}

/-- The sets of states that some text leads to, as long as they are not dead. -/
inductive Nfa.Visits (nfa : Nfa) : StateSet → Prop
  | start {S : StateSet} (h : nfa.Closes [nfa.start] true S) (hdead : ¬ S.isDead) : nfa.Visits S
  | step {S T : StateSet} {b : UInt8} (hS : nfa.Visits S) (h : nfa.Closes (nfa.step S b) false T)
    (hdead : ¬ T.isDead) : nfa.Visits T

namespace Nfa

theorem mem_targets : some T ∈ nfa.targets S ↔ ∃ b, nfa.close? (nfa.step S b) false = some T := by
  unfold targets
  rw [List.mem_map]
  constructor
  · rintro ⟨b, -, hb⟩
    exact ⟨b, hb⟩
  · rintro ⟨b, hb⟩
    obtain ⟨r, hr, hget, -⟩ := ByteClasses.exists_representative nfa b
    exact ⟨r, Array.mem_toList_iff.mpr (Array.mem_of_getElem? hr), by rw [step_eq_of_get_eq hget, hb]⟩

theorem visits_of_close? (hS : nfa.close? [nfa.start] true = some S) : nfa.Visits S := by
  obtain ⟨h, hdead⟩ := close?_eq_some_iff.mp hS
  exact .start h hdead

theorem visits_iff (hS : nfa.close? [nfa.start] true = some S) :
    nfa.Visits T ↔ Numbering.Reaches nfa.targets S T := by
  constructor
  · intro h
    induction h with
    | start h hdead =>
      rw [Option.some.inj (hS.symm.trans (close?_eq_some_iff.mpr ⟨h, hdead⟩))]
      exact .refl
    | step _ h hdead ih => exact ih.tail (mem_targets.mpr ⟨_, close?_eq_some_iff.mpr ⟨h, hdead⟩⟩)
  · intro h
    induction h with
    | refl => exact visits_of_close? hS
    | tail _ hmem ih =>
      obtain ⟨b, hb⟩ := mem_targets.mp hmem
      obtain ⟨h, hdead⟩ := close?_eq_some_iff.mp hb
      exact ih.step h hdead

theorem not_visits (hnone : nfa.close? [nfa.start] true = none) : ¬ nfa.Visits T := by
  intro h
  induction h with
  | start h hdead =>
    rw [close?_eq_some_iff.mpr ⟨h, hdead⟩] at hnone
    cases hnone
  | step _ _ _ ih => exact ih

theorem Visits.closes (h : nfa.Visits S) : ∃ seeds atStart, nfa.Closes seeds atStart S := by
  cases h with
  | start h => exact ⟨_, _, h⟩
  | step _ h => exact ⟨_, _, h⟩

theorem lt_of_consumes {s : StateId} (h : nfa.consumes s) : s < nfa.states.size := by
  by_contra hs
  simp [consumes, Array.getElem?_eq_none (not_lt.mp hs)] at h

theorem finite_visits (nfa : Nfa) : {S | nfa.Visits S}.Finite := by
  let sets : Finset (Finset ℕ × Bool) := (Finset.range nfa.states.size).powerset ×ˢ Finset.univ
  refine Set.Finite.of_injOn (f := fun S => (S.states.toFinset, S.accepting)) ?_ ?_ sets.finite_toSet
  · intro S hS
    obtain ⟨_, _, h⟩ := hS.closes
    have hsub : S.states.toFinset ⊆ Finset.range nfa.states.size := fun s hs =>
      Finset.mem_range.mpr (lt_of_consumes ((h.mem_iff s).mp (List.mem_toFinset.mp hs)).1)
    exact Finset.mem_product.mpr ⟨Finset.mem_powerset.mpr hsub, Finset.mem_univ S.accepting⟩
  · intro S hS T hT heq
    obtain ⟨_, _, h⟩ := hS.closes
    obtain ⟨_, _, h'⟩ := hT.closes
    obtain ⟨hstates, haccepting⟩ := Prod.mk.inj heq
    have : S.states = T.states := h.ascending.eq_of_mem_iff h'.ascending fun s => by
      rw [← List.mem_toFinset, hstates, List.mem_toFinset]
    cases S
    cases T
    simp_all

end Nfa

theorem determinize_eq_error_iff : determinize limits nfa = .error (.tooComplex .dfaStates limits.dfaStates) ↔
    max limits.dfaStates 1 < {S | nfa.Visits S}.ncard := by
  have hfin := nfa.finite_visits
  rw [determinize_eq]
  cases hS : nfa.close? [nfa.start] true with
  | none => simp [Nfa.not_visits hS]
  | some S =>
    simp only [Nfa.visits_iff hS] at hfin ⊢
    rw [← Numbering.search_eq_error_iff hfin, bind_eq_error_iff]
    simp [pure, Except.pure]

theorem Dfa.ofNfa_eq_error_iff : Dfa.ofNfa limits nfa = .error (.tooComplex .dfaStates limits.dfaStates) ↔
    max limits.dfaStates 1 < {S | nfa.Visits S}.ncard := by
  rw [← determinize_eq_error_iff, Dfa.ofNfa, bind_eq_error_iff, or_iff_left_iff_imp]
  rintro ⟨d, -, hd⟩
  split at hd <;> simp at hd

theorem size_determinize {d : Dfa} (h : determinize limits nfa = .ok d) : d.size ≤ max limits.dfaStates 1 := by
  rw [determinize_eq] at h
  split at h
  · cases h
  · simp only [bind_eq_ok_iff, pure_eq_ok_iff, Prod.exists] at h
    obtain ⟨found, rows, hsearch, rfl⟩ := h
    simpa [Dfa.size, Nfa.tabulate] using Numbering.length_le_of_search hsearch

theorem exists_visits {d : Dfa} (h : determinize limits nfa = .ok d) : ∃ S, nfa.Visits S := by
  obtain ⟨S, hS⟩ : ∃ S, nfa.close? [nfa.start] true = some S := by
    by_contra! hnone
    rw [determinize_eq, Option.eq_none_iff_forall_ne_some.mpr hnone] at h
    cases h
  exact ⟨S, Nfa.visits_of_close? hS⟩

theorem Dfa.Trims.size_le {d d' : Dfa} {order : List StateId} (h : Trims d d' order) : d'.size ≤ d.size := by
  have hsub : order.toFinset ⊆ Finset.range d.size := fun s hs =>
    Finset.mem_range.mpr ((h.mem_iff s).mp (List.mem_toFinset.mp hs)).1.1
  have hcard := Finset.card_le_card hsub
  rwa [List.toFinset_card_of_nodup h.numbered.nodup, Finset.card_range, ← h.size_eq] at hcard

theorem Dfa.size_ofNfa {d : Dfa} (h : Dfa.ofNfa limits nfa = .ok d) : d.size ≤ max limits.dfaStates 1 := by
  obtain ⟨d₁, hd, htrim⟩ := ofNfa_eq_ok h
  obtain ⟨order, htrims⟩ := trim?_trims htrim
  exact htrims.size_le.trans (size_determinize hd)

theorem Nfa.size_ofExpr {e : Expr} (h : Nfa.ofExpr limits e = .ok nfa) : nfa.states.size ≤ limits.nfaStates := by
  simp only [Nfa.ofExpr, bind_eq_ok_iff, pure_eq_ok_iff, Prod.exists, Plan.reserve_eq_ok] at h
  obtain ⟨p, _, hp, _, ⟨hle, -⟩, rfl⟩ := h
  obtain ⟨rfl, -⟩ := Plan.ofExpr_matches (w := []) e hp
  simpa [Plan.length_states] using hle

/-- The limits on states are exact. The deterministic automaton is refused if and only if more sets than the
limit are visited, where there is always room for the first, and neither automaton has more states than its
limit. -/
theorem state_limits (limits : CompileLimits) :
    (∀ nfa, {S | nfa.Visits S}.Finite ∧
      (Dfa.ofNfa limits nfa = .error (.tooComplex .dfaStates limits.dfaStates) ↔
        max limits.dfaStates 1 < {S | nfa.Visits S}.ncard) ∧
      ∀ d, Dfa.ofNfa limits nfa = .ok d → d.size ≤ max limits.dfaStates 1) ∧
    ∀ e nfa, Nfa.ofExpr limits e = .ok nfa → nfa.states.size ≤ limits.nfaStates :=
  ⟨fun nfa => ⟨nfa.finite_visits, Dfa.ofNfa_eq_error_iff, fun _ => Dfa.size_ofNfa⟩,
    fun _ _ => Nfa.size_ofExpr⟩

/-- Three sets are visited in the automaton of `a{2}`: there is room for them within a limit of three but not
within one of two. -/
theorem ncard_visits_twice : {S | twice.Visits S}.ncard = 3 ∧
    (∃ d, Dfa.ofNfa twiceLimits twice = .ok d ∧ d.size ≤ 3) ∧
    Nfa.ofPattern twiceLimits "a\x7b2\x7d" = .ok twice ∧ twice.states.size ≤ 4 := by
  have htwo : Dfa.ofNfa { twiceLimits with dfaStates := 2 } twice = .error (.tooComplex .dfaStates 2) := by
    simp only [Dfa.ofNfa, determinize, representatives_twice]
    generalize ByteClasses.ofNfa twice = classes
    cbv
  obtain ⟨d, hd⟩ := ofNfa_twice
  have hlt := ((state_limits { twiceLimits with dfaStates := 2 }).1 twice).2.1.mp htwo
  obtain ⟨-, hiff, hsize⟩ := (state_limits twiceLimits).1 twice
  have hle : ¬ 3 < {S | twice.Visits S}.ncard := fun h => by
    have := hiff.mpr h
    rw [hd] at this
    cases this
  refine ⟨?_, ⟨d, hd, hsize d hd⟩, ofPattern_twice, ?_⟩
  · change 2 < _ at hlt
    omega
  · obtain ⟨e, -, he⟩ := bind_eq_ok_iff.mp ofPattern_twice
    exact (state_limits twiceLimits).2 e twice he

/-- With no state allowed, the empty pattern has an automaton of one state. -/
theorem exists_ofNfa_noStates : ∃ nfa d, Nfa.ofPattern { dfaStates := 0 } "" = .ok nfa ∧
    Dfa.ofNfa { dfaStates := 0 } nfa = .ok d ∧ d.size = 1 ∧ 0 < {S | nfa.Visits S}.ncard := by
  let nfa : Nfa := { states := #[.epsilon 1, .accept], start := 0 }
  have hnfa : Nfa.ofPattern { dfaStates := 0 } "" = .ok nfa := by cbv
  have hreps : (ByteClasses.ofNfa nfa).representatives = #[0] := by
    rw [ByteClasses.representatives_ofNfa]
    decide +kernel
  have hok : (Dfa.ofNfa { dfaStates := 0 } nfa).map Dfa.size = .ok 1 := by
    simp only [Dfa.ofNfa, determinize, hreps]
    generalize ByteClasses.ofNfa nfa = classes
    cbv
  obtain ⟨d, hd, hsize⟩ := map_eq_ok_iff.mp hok
  obtain ⟨d₁, hd₁, -⟩ := Dfa.ofNfa_eq_ok hd
  exact ⟨nfa, d, hnfa, hd, hsize, (Set.ncard_pos nfa.finite_visits).mpr (exists_visits hd₁)⟩

end Visits

end ConstrainedDecoding.Automaton
