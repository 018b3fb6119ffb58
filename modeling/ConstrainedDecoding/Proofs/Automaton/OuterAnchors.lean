import ConstrainedDecoding.Guide.Basic
import ConstrainedDecoding.Proofs.Automaton.Limits
import ConstrainedDecoding.Proofs.Automaton.Relocation

/-! Anchors around an expression. The start of a text is where every construction begins, and an automaton that
goes on with an end anchor pauses in the same states, so that the sets that are visited are the same under
other numbers. -/
namespace ConstrainedDecoding.Automaton
open Pattern (Expr)

theorem NfaState.silent_rename {f : ℕ → ℕ} {q : NfaState} {atStart e e' : Bool} {t : StateId} :
    (q.rename f).Silent atStart e t e' ↔ ∃ u, t = f u ∧ q.Silent atStart e u e' := by
  cases q with
  | range | accept | epsilon => simp [rename, Silent]
  | union => simp only [rename, Silent, List.mem_map]; grind
  | anchor a => cases a <;> simp [rename, Silent, and_left_comm]

namespace Nfa

/-- An automaton between a start anchor and an end anchor. The states of the inner automaton have other numbers
in the outer one, and where the inner one ends, an end anchor leads to a last state. -/
structure Anchors (inner outer : Nfa) (f : ℕ → ℕ) (exit last : ℕ) : Prop where
  mono : StrictMono f
  start : outer.states[outer.start]? = some (.anchor .start (f inner.start))
  state : ∀ s, s ≠ exit → outer.states[f s]? = inner.states[s]?.map (NfaState.rename f)
  accept : inner.states[exit]? = some .accept
  stop : outer.states[f exit]? = some (.anchor .stop last)
  finish : outer.states[last]? = some .accept
  covered : ∀ t : ℕ, t = outer.start ∨ t = last ∨ ∃ s, t = f s

namespace Anchors

variable {inner outer : Nfa} {f : ℕ → ℕ} {exit last : ℕ} {seeds : List StateId} {atStart : Bool}
  {s t : StateId} {e : Bool}

theorem start_lt (h : Anchors inner outer f exit last) : outer.start < outer.states.size :=
  (Array.getElem?_eq_some_iff.mp h.start).1

theorem ne_exit (h : Anchors inner outer f exit last) {q : NfaState} (hq : inner.states[s]? = some q)
    (hne : q ≠ .accept) : s ≠ exit := by
  rintro rfl
  exact hne (Option.some.inj (hq.symm.trans h.accept))

theorem lt_iff (h : Anchors inner outer f exit last) : f s < outer.states.size ↔ s < inner.states.size := by
  by_cases hs : s = exit
  · subst hs
    exact iff_of_true (Array.getElem?_eq_some_iff.mp h.stop).1 (Array.getElem?_eq_some_iff.mp h.accept).1
  · rw [← not_le, ← not_le, ← Array.getElem?_eq_none_iff, ← Array.getElem?_eq_none_iff, h.state s hs,
      Option.map_eq_none_iff]

/-- In the outer automaton the same states are reached, and the last one beyond the end. -/
theorem silently_iff (h : Anchors inner outer f exit last) :
    outer.Silently (seeds.map f) atStart t e ↔ (∃ s, t = f s ∧ inner.Silently seeds atStart s e) ∨
      t = last ∧ e = true ∧ ∃ e', inner.Silently seeds atStart exit e' := by
  constructor
  · intro hsil
    induction hsil using Silently.induct with
    | seed t ht hlt =>
      obtain ⟨s, hs, rfl⟩ := List.mem_map.mp ht
      exact .inl ⟨s, rfl, .seed hs (h.lt_iff.mp hlt)⟩
    | step t e q u e' _ hq hsil hlt ih =>
      rcases ih with ⟨s, rfl, hs⟩ | ⟨rfl, rfl, -⟩
      · by_cases hexit : s = exit
        · -- where the inner automaton ends, the outer one goes on past the end anchor
          subst hexit
          obtain rfl := Option.some.inj (h.stop.symm.trans hq)
          exact .inr ⟨hsil.1, hsil.2, e, hs⟩
        · rw [h.state s hexit] at hq
          obtain ⟨p, hp, rfl⟩ := Option.map_eq_some_iff.mp hq
          obtain ⟨u, rfl, hp'⟩ := NfaState.silent_rename.mp hsil
          exact .inl ⟨u, rfl, hs.step hp hp' (h.lt_iff.mp hlt)⟩
      · obtain rfl := Option.some.inj (h.finish.symm.trans hq)
        exact hsil.elim
  · have hinner {s : StateId} {e : Bool} (hs : inner.Silently seeds atStart s e) :
        outer.Silently (seeds.map f) atStart (f s) e := by
      induction hs using Silently.induct with
      | seed s hs hlt => exact .seed (List.mem_map_of_mem hs) (h.lt_iff.mpr hlt)
      | step s e q t e' _ hq hsil hlt ih =>
        have hexit : s ≠ exit := h.ne_exit hq (by rintro rfl; exact hsil)
        have hq' : outer.states[f s]? = some (q.rename f) := by rw [h.state s hexit, hq, Option.map_some]
        exact ih.step hq' (NfaState.silent_rename.mpr ⟨t, rfl, hsil⟩) (h.lt_iff.mpr hlt)
    rintro (⟨s, rfl, hs⟩ | ⟨rfl, rfl, e', hexit⟩)
    · exact hinner hs
    · exact (hinner hexit).step h.stop ⟨rfl, rfl⟩ (Array.getElem?_eq_some_iff.mp h.finish).1

theorem silently_start_iff (h : Anchors inner outer f exit last) :
    outer.Silently [outer.start] true t e ↔
      t = outer.start ∧ e = false ∨ outer.Silently [f inner.start] true t e := by
  have hstart : outer.Silently [outer.start] true outer.start false :=
    .seed (List.mem_singleton_self _) h.start_lt
  constructor
  · intro hsil
    induction hsil using Silently.induct with
    | seed t ht _ => exact .inl ⟨List.mem_singleton.mp ht, rfl⟩
    | step t e q u e' _ hq hsil hlt ih =>
      rcases ih with ⟨rfl, rfl⟩ | ht
      · obtain rfl := Option.some.inj (h.start.symm.trans hq)
        obtain ⟨-, rfl, rfl⟩ := hsil
        exact .inr (.seed (List.mem_singleton_self _) hlt)
      · exact .inr (ht.step hq hsil hlt)
  · rintro (⟨rfl, rfl⟩ | hsil)
    · exact hstart
    · induction hsil using Silently.induct with
      | seed t ht hlt =>
        obtain rfl := List.mem_singleton.mp ht
        exact hstart.step h.start ⟨rfl, rfl, rfl⟩ hlt
      | step t e q u e' _ hq hsil hlt ih => exact ih.step hq hsil hlt

theorem getElem?_eq_range_iff (h : Anchors inner outer f exit last) {lo hi : UInt8} {u : StateId} :
    outer.states[t]? = some (.range lo hi u) ↔
      ∃ s v, t = f s ∧ u = f v ∧ inner.states[s]? = some (.range lo hi v) := by
  constructor
  · intro hq
    rcases h.covered t with rfl | rfl | ⟨s, rfl⟩
    · cases hq.symm.trans h.start
    · cases hq.symm.trans h.finish
    · by_cases hexit : s = exit
      · subst hexit
        cases hq.symm.trans h.stop
      · rw [h.state s hexit] at hq
        obtain ⟨p, hp, hrename⟩ := Option.map_eq_some_iff.mp hq
        cases p with
        | range lo' hi' v =>
          cases hrename
          exact ⟨s, v, rfl, rfl, hp⟩
        | _ => cases hrename
  · rintro ⟨s, v, rfl, rfl, hq⟩
    rw [h.state s (h.ne_exit hq nofun), hq]
    rfl

theorem consumes_iff (h : Anchors inner outer f exit last) :
    outer.consumes t ↔ ∃ s, t = f s ∧ inner.consumes s := by
  simp only [consumes_iff_exists_range, h.getElem?_eq_range_iff]
  grind

theorem accepts_iff (h : Anchors inner outer f exit last) :
    outer.accepts (f s) ↔ s ≠ exit ∧ inner.accepts s := by
  simp only [accepts, beq_iff_eq]
  by_cases hexit : s = exit
  · subst hexit
    simp [h.stop]
  · rw [h.state s hexit, Option.map_eq_some_iff]
    constructor
    · rintro ⟨p, hp, hrename⟩
      cases p with
      | accept => exact ⟨hexit, hp⟩
      | _ => cases hrename
    · rintro ⟨-, hq⟩
      exact ⟨.accept, hq, rfl⟩

end Anchors

end Nfa

def StateSet.map (f : ℕ → ℕ) (S : StateSet) : StateSet := { S with states := S.states.map f }

theorem StateSet.map_injective {f : ℕ → ℕ} (hf : f.Injective) : (StateSet.map f).Injective := by
  rintro ⟨states, accepting⟩ ⟨states', accepting'⟩ h
  simpa [StateSet.map, (List.map_injective_iff.mpr hf).eq_iff] using h

@[simp] theorem StateSet.isDead_map (f : ℕ → ℕ) (S : StateSet) : (S.map f).isDead = S.isDead := by
  simp [StateSet.map, StateSet.isDead]

namespace Nfa.Anchors

variable {inner outer : Nfa} {f : ℕ → ℕ} {exit last : ℕ} {seeds : List StateId} {atStart : Bool}
  {S : StateSet} {limits : CompileLimits}

/-- What is paused in is the same, and the outer automaton accepts past the end anchor where the inner one accepts
in its last state. -/
theorem closes (h : Anchors inner outer f exit last) (hS : inner.Closes seeds atStart S) :
    outer.Closes (seeds.map f) atStart (S.map f) := by
  refine ⟨?_, fun t => ?_, ?_⟩
  · exact List.pairwise_map.mpr (hS.ascending.imp fun hlt => h.mono hlt)
  · simp only [StateSet.map, List.mem_map, hS.mem_iff, h.consumes_iff, h.silently_iff]
    constructor
    · rintro ⟨s, ⟨hc, hs⟩, rfl⟩
      exact ⟨⟨s, rfl, hc⟩, .inl ⟨s, rfl, hs⟩⟩
    · rintro ⟨⟨s, rfl, hc⟩, ⟨u, hu, hs⟩ | ⟨-, hfalse, -⟩⟩
      · obtain rfl := h.mono.injective hu
        exact ⟨s, ⟨hc, hs⟩, rfl⟩
      · cases hfalse
  · simp only [StateSet.map, hS.accepting_iff, h.silently_iff]
    constructor
    · rintro ⟨s, e, ha, hs⟩
      by_cases hexit : s = exit
      · exact ⟨last, true, by simp [accepts, h.finish], .inr ⟨rfl, rfl, e, hexit ▸ hs⟩⟩
      · exact ⟨f s, e, h.accepts_iff.mpr ⟨hexit, ha⟩, .inl ⟨s, rfl, hs⟩⟩
    · rintro ⟨t, e, ha, ⟨s, rfl, hs⟩ | ⟨rfl, rfl, e', hs⟩⟩
      · exact ⟨s, e, (h.accepts_iff.mp ha).2, hs⟩
      · exact ⟨exit, e', by simp [accepts, h.accept], hs⟩

/-- The start anchor neither reads a byte nor accepts. -/
theorem closes_start (h : Anchors inner outer f exit last) (hS : inner.Closes [inner.start] true S) :
    outer.Closes [outer.start] true (S.map f) := by
  obtain ⟨hascending, hmem, haccepting⟩ := h.closes hS
  have hconsumes : ¬ outer.consumes outer.start := by simp [consumes, h.start]
  have haccepts : ¬ outer.accepts outer.start := by simp [accepts, h.start]
  refine ⟨hascending, fun t => ?_, ?_⟩
  · rw [hmem, h.silently_start_iff]
    exact and_congr_right fun hc => (or_iff_right fun ht : t = outer.start ∧ _ => hconsumes (ht.1 ▸ hc)).symm
  · rw [haccepting]
    refine exists_congr fun t => exists_congr fun e => and_congr_right fun ha => ?_
    rw [h.silently_start_iff]
    exact (or_iff_right fun ht : t = outer.start ∧ _ => haccepts (ht.1 ▸ ha)).symm

private theorem close?_eq_map {seeds' : List StateId}
    (hcl : ∀ S, inner.Closes seeds atStart S → outer.Closes seeds' atStart (S.map f)) :
    outer.close? seeds' atStart = (inner.close? seeds atStart).map (StateSet.map f) := by
  obtain ⟨S, hS⟩ := inner.exists_closes seeds atStart
  rw [close?_eq hS, close?_eq (hcl _ hS), StateSet.isDead_map]
  split <;> rfl

theorem close?_map (h : Anchors inner outer f exit last) (seeds : List StateId) (atStart : Bool) :
    outer.close? (seeds.map f) atStart = (inner.close? seeds atStart).map (StateSet.map f) :=
  close?_eq_map fun _ => h.closes

theorem close?_start (h : Anchors inner outer f exit last) :
    outer.close? [outer.start] true = (inner.close? [inner.start] true).map (StateSet.map f) :=
  close?_eq_map fun _ => h.closes_start

theorem step_map (h : Anchors inner outer f exit last) (S : StateSet) (b : UInt8) :
    outer.step (S.map f) b = (inner.step S b).map f := by
  simp only [step, StateSet.map, List.filterMap_map, List.map_filterMap]
  refine List.filterMap_congr fun s _ => ?_
  by_cases hexit : s = exit
  · simp [hexit, h.stop, h.accept]
  · simp only [Function.comp_apply, h.state s hexit]
    cases inner.states[s]? with
    | none => rfl
    | some q =>
      cases q with
      | range lo hi next =>
        simp only [Option.map_some, NfaState.rename]
        split <;> rfl
      | _ => rfl

theorem ofNfa_eq (h : Anchors inner outer f exit last) : ByteClasses.ofNfa outer = ByteClasses.ofNfa inner := by
  refine ByteClasses.ofNfa_congr fun b => ?_
  simp only [ByteClasses.IsBoundary, Array.mem_iff_getElem?, h.getElem?_eq_range_iff]
  grind

theorem targets_map (h : Anchors inner outer f exit last) (S : StateSet) :
    outer.targets (S.map f) = (inner.targets S).map (Option.map (StateSet.map f)) := by
  simp only [targets, h.ofNfa_eq, List.map_map, Function.comp_def, h.step_map, h.close?_map]

/-- The sets that are found in the outer automaton are those of the inner one under other numbers. -/
theorem determinize_eq (h : Anchors inner outer f exit last) :
    determinize limits outer = determinize limits inner := by
  rw [Automaton.determinize_eq, Automaton.determinize_eq, h.close?_start]
  cases inner.close? [inner.start] true with
  | none => rfl
  | some S =>
    refine InStep.eq (P := fun _ => False) ?_ fun _ _ => id
    refine (Numbering.search_map (StateSet.map_injective h.mono.injective) h.targets_map _ _ _).bind ?_
    rintro a b _ rfl
    refine .ok ?_
    simp [tabulate, h.ofNfa_eq, StateSet.map]

end Nfa.Anchors

theorem Dfa.ofNfa_anchors {limits : CompileLimits} {inner outer : Nfa} {f : ℕ → ℕ} {exit last : ℕ}
    (h : Nfa.Anchors inner outer f exit last) : Dfa.ofNfa limits outer = Dfa.ofNfa limits inner := by
  rw [Dfa.ofNfa, Dfa.ofNfa, h.determinize_eq]

/-- The number that a state has between anchors: the start anchor comes before all states, the end anchor stands
for the accepting state `n`, and the last state comes after it. -/
def shift (n s : ℕ) : ℕ := if s ≤ n then s + 1 else s + 2

theorem shift_strictMono (n : ℕ) : StrictMono (shift n) := by
  intro s t h
  unfold shift
  split <;> split <;> omega

theorem Nfa.states_ofPlan_anchors (p : Plan) :
    (ofPlan (.sequence [.anchor .start, p, .anchor .stop])).states = (.anchor .start 1 ::
      ((p.states 0 p.size).map (NfaState.rename (shift p.size)) ++
        [.anchor .stop (p.size + 2), .accept])).toArray := by
  have hexit : shift p.size p.size = p.size + 1 := if_pos le_rfl
  have hshift : Relocates (shift p.size) 1 0 p.size := fun i hi => by
    rw [shift, if_pos (by omega)]
    omega
  rw [← Plan.states_rename p hshift, hexit]
  simp only [ofPlan, Plan.sequence, Plan.states, Plan.size, List.append_assoc, List.cons_append, List.nil_append,
    Nat.zero_add, Nat.add_comm 1]

theorem Nfa.anchors_ofPlan (p : Plan) :
    Anchors (ofPlan p) (ofPlan (.sequence [.anchor .start, p, .anchor .stop])) (shift p.size) p.size
      (p.size + 2) := by
  have hlength : (p.states 0 p.size).length = p.size := Plan.length_states p 0 _
  have hexit : shift p.size p.size = p.size + 1 := if_pos le_rfl
  have hinner (s : ℕ) : (ofPlan p).states[s]? = (p.states 0 p.size ++ [NfaState.accept])[s]? :=
    List.getElem?_toArray
  have houter (t : ℕ) : (ofPlan (.sequence [.anchor .start, p, .anchor .stop])).states[t + 1]? =
      ((p.states 0 p.size).map (NfaState.rename (shift p.size)) ++ [.anchor .stop (p.size + 2), .accept])[t]? := by
    rw [states_ofPlan_anchors, List.getElem?_toArray, List.getElem?_cons_succ]
  refine ⟨shift_strictMono _, ?_, fun s hs => ?_, ?_, ?_, ?_, fun t => ?_⟩
  · rw [states_ofPlan_anchors]
    have := Plan.size_pos p
    simp [ofPlan, shift]
  · rcases Nat.lt_or_gt_of_ne hs with hlt | hlt
    · rw [shift, if_pos hlt.le, houter, hinner, List.getElem?_append_left (by simpa [hlength] using hlt),
        List.getElem?_append_left (by simpa [hlength] using hlt), List.getElem?_map]
    · rw [shift, if_neg (by omega), houter, hinner, List.getElem?_eq_none (by simp [hlength]; omega),
        List.getElem?_eq_none (by simp [hlength]; omega)]
      rfl
  · simp [hinner, hlength]
  · rw [hexit, houter]
    simp [hlength]
  · rw [houter]
    simp [hlength]
  · rcases t with _ | t
    · exact .inl rfl
    · by_cases hlast : t = p.size + 1
      · exact .inr (.inl (by rw [hlast]))
      · refine .inr (.inr ?_)
        rcases Nat.lt_or_ge p.size t with hlt | hle
        · refine ⟨t - 1, ?_⟩
          rw [shift, if_neg (by omega)]
          omega
        · exact ⟨t, by rw [shift, if_pos hle]⟩

variable {limits : CompileLimits}

namespace Plan

theorem ofExprs_append (es es' : List Expr) (count : ℕ) : ofExprs limits count (es ++ es') = do
    let (ps, count) ← ofExprs limits count es
    let (ps', count) ← ofExprs limits count es'
    return (ps ++ ps', count) := by
  induction es generalizing count with
  | nil => simp [ofExprs, ok_bind]
  | cons e es ih => simp [ofExprs, ih]

theorem ofExpr_concat (e : Expr) (es : List Expr) (count : ℕ) : ofExpr limits count (.concat (e :: es)) = do
    let (ps, count) ← ofExprs limits count (e :: es)
    return (sequence ps, count) := by
  simp [ofExpr, ofExprs]

theorem states_sequence_append {ps qs : List Plan} (hps : ps ≠ []) (hqs : qs ≠ []) (base exit : ℕ) :
    (sequence (ps ++ qs)).states base exit = (append (sequence ps) (sequence qs)).states base exit := by
  obtain ⟨q, qs, rfl⟩ := List.exists_cons_of_ne_nil hqs
  induction ps generalizing base with
  | nil => exact absurd rfl hps
  | cons p ps ih =>
    cases ps with
    | nil => rfl
    | cons p' ps =>
      have := ih (List.cons_ne_nil _ _) (base + p.size)
      simp only [List.cons_append, sequence, states, size] at this ⊢
      rw [this, List.append_assoc, Nat.add_assoc]

end Plan

theorem Nfa.ofExpr_concat_append {es : List Expr} (hes : es ≠ []) (e e' : Expr) :
    Nfa.ofExpr limits (.concat (e :: es ++ [e'])) = Nfa.ofExpr limits (.concat [e, .concat es, e']) := by
  obtain ⟨e₁, es, rfl⟩ := List.exists_cons_of_ne_nil hes
  simp only [Nfa.ofExpr, List.cons_append, Plan.ofExpr_concat, Plan.ofExprs, Plan.ofExprs_append, bind_assoc,
    pure_bind, ok_bind]
  refine bind_congr fun a => bind_congr fun b => bind_congr fun c => bind_congr fun d => bind_congr fun _ => ?_
  have hparts := Plan.states_sequence_append (List.cons_ne_nil b.1 c.1) (List.cons_ne_nil d.1 [])
  simp only [List.cons_append, Plan.sequence, Plan.states] at hparts ⊢
  simp only [hparts, List.append_assoc]

def anchored (e : Expr) : Expr := .concat [.assertion .start, e, .assertion .stop]

theorem Nfa.ofExpr_anchored_inStep (limits : CompileLimits) (e : Expr) :
    InStep (Plan.Avoidable limits limits) (fun outer inner => ∃ f exit last, Anchors inner outer f exit last)
      (Nfa.ofExpr limits (anchored e)) (Nfa.ofExpr limits e) := by
  have hreserve {count n : ℕ} : FailsWith (Plan.Avoidable limits limits) (Plan.reserve limits count n) := by
    unfold Plan.reserve
    split
    · exact .ok
    · exact .error (.inl rfl)
  simp only [Nfa.ofExpr, anchored, Plan.ofExpr, Plan.ofExprs, Plan.leaf, Plan.anchorOf, bind_assoc, pure_bind,
    ok_bind]
  refine InStep.skip hreserve fun c hc => ?_
  obtain ⟨-, rfl⟩ := Plan.reserve_eq_ok.mp hc
  have hroom : Plan.Roomier limits 1 limits 0 := ⟨le_rfl, Nat.le_succ _⟩
  refine (Plan.ofExpr_inStep e hroom).bind fun a b ha hab => ?_
  obtain ⟨p, c⟩ := a
  obtain ⟨q, c'⟩ := b
  obtain ⟨rfl, hcount⟩ : p = q ∧ c + 0 = c' + 1 := hab
  obtain ⟨rfl, -⟩ := Plan.ofExpr_matches (w := []) e ha
  refine InStep.skip hreserve fun d hd => ?_
  obtain ⟨-, rfl⟩ := Plan.reserve_eq_ok.mp hd
  have hroom' : Plan.Roomier limits (1 + p.size + 1) limits c' := ⟨le_rfl, by omega⟩
  refine (Plan.reserve_inStep hroom' 1).bind fun _ _ _ _ => .ok ⟨shift p.size, p.size, p.size + 2, ?_⟩
  obtain rfl : c' = p.size := by omega
  have hsize : (Plan.sequence [.anchor .start, p, .anchor .stop]).size = 1 + p.size + 1 :=
    (Nat.add_assoc 1 p.size 1).symm
  have := Nfa.anchors_ofPlan p
  rwa [Nfa.ofPlan, Nfa.ofPlan, hsize] at this

/-- Anchors around an expression do not change what becomes of it, unless there is no room for them. It does
not matter whether the parts of a concatenation stand between them as one part or as several. -/
theorem ofNfa_anchored {e : Expr}
    (h : Nfa.ofExpr limits (anchored e) ≠ .error (.tooComplex .nfaStates limits.nfaStates)) :
    (Nfa.ofExpr limits (anchored e) >>= Dfa.ofNfa limits) = (Nfa.ofExpr limits e >>= Dfa.ofNfa limits) ∧
      (∀ pattern v options,
        (Nfa.ofExpr limits (anchored e) >>= Dfa.ofNfa limits >>= fun d => Guide.ofDfa pattern d v options) =
          (Nfa.ofExpr limits e >>= Dfa.ofNfa limits >>= fun d => Guide.ofDfa pattern d v options)) ∧
      ∀ es, es ≠ [] → e = .concat es →
        Nfa.ofExpr limits (.concat (.assertion .start :: es ++ [.assertion .stop])) =
          Nfa.ofExpr limits (anchored e) := by
  have hfails : FailsWith (¬ Plan.Avoidable limits limits ·) (Nfa.ofExpr limits (anchored e)) := by
    rintro _ he (rfl | ⟨hlt, -⟩)
    · exact h he
    · exact absurd hlt (lt_irrefl _)
  have hstep := (Nfa.ofExpr_anchored_inStep limits e).strict (Q := fun _ => False) hfails
  have heq : (Nfa.ofExpr limits (anchored e) >>= Dfa.ofNfa limits) = (Nfa.ofExpr limits e >>= Dfa.ofNfa limits) := by
    refine (InStep.eq (P := fun _ => False) (hstep.bind fun outer inner _ hanchors => ?_) fun _ _ => id).symm
    obtain ⟨f, exit, last, hanchors⟩ := hanchors
    rw [Dfa.ofNfa_anchors hanchors]
    exact .refl (fun _ => rfl) _
  refine ⟨heq, fun pattern v options => by rw [heq], ?_⟩
  rintro es hes rfl
  exact Nfa.ofExpr_concat_append hes _ _

/-- Anchors around `^(?:a$)*`, which has anchors of its own within a loop. -/
theorem ofNfa_anchored_loop :
    (Nfa.ofExpr {} (anchored anchoredLoop) ≠ .error (.tooComplex .nfaStates 1048576)) ∧
      (Nfa.ofExpr {} (anchored anchoredLoop) >>= Dfa.ofNfa {}) = (Nfa.ofExpr {} anchoredLoop >>= Dfa.ofNfa {}) := by
  have hok : (Nfa.ofExpr {} (anchored anchoredLoop)).isOk := by cbv
  obtain ⟨nfa, hnfa⟩ := exists_of_isOk hok
  have hne : Nfa.ofExpr {} (anchored anchoredLoop) ≠ .error (.tooComplex .nfaStates 1048576) := by
    intro herror
    rw [hnfa] at herror
    cases herror
  exact ⟨hne, (ofNfa_anchored hne).1⟩

end ConstrainedDecoding.Automaton
