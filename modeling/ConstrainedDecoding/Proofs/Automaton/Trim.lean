import ConstrainedDecoding.Automaton.Dfa
import ConstrainedDecoding.Proofs.Automaton.BreadthFirst

/-! Trimming. The states that are kept are those on the way from the start to an accepting state, so what is
accepted does not change. -/
namespace ConstrainedDecoding.Automaton.Dfa

variable {d d' : Dfa}

def Live (d : Dfa) (s : StateId) : Prop :=
  s < d.size ∧ ∃ t, d.isAccepting t ∧ Relation.ReflTransGen (Edge d.size d.successors) s t

theorem walk?_cons (d : Dfa) (s : StateId) (b : UInt8) (bs : List UInt8) :
    d.walk? s (b :: bs) = (d.next? s b).bind fun s => d.walk? s bs := rfl

theorem walk?_append (d : Dfa) (s : StateId) (bs cs : List UInt8) :
    d.walk? s (bs ++ cs) = (d.walk? s bs).bind fun s => d.walk? s cs := by
  rw [walk?, List.foldlM_append]
  rfl

theorem accepts_iff {bs : List UInt8} :
    d.accepts bs ↔ ∃ s, d.walk? start bs = some s ∧ d.isAccepting s := by
  rw [accepts, Option.any_eq_true]

theorem lt_of_isAccepting {s : ℕ} (h : d.isAccepting s) : s < d.size := by
  by_contra hs
  simp [isAccepting, Array.getD_eq_getD_getElem?, Array.getElem?_eq_none (not_lt.mp hs)] at h

theorem mem_acceptingStates {s : ℕ} : s ∈ d.acceptingStates ↔ d.isAccepting s := by
  rw [acceptingStates, List.mem_filter, List.mem_range, and_iff_right_iff_imp]
  exact lt_of_isAccepting

theorem mem_successors {s t : ℕ} : t ∈ d.successors s ↔ some t ∈ d.row s := by
  simp [successors]

theorem mem_successors_of_next? {s t : ℕ} {b : UInt8} (h : d.next? s b = some t) :
    t ∈ d.successors s := by
  rw [mem_successors]
  exact Array.mem_of_getElem? (Option.join_eq_some_iff.mp h)

theorem row_of_le {s : ℕ} (h : d.rows.size ≤ s) : d.row s = #[] := by
  rw [row, Array.getD_eq_getD_getElem?, Array.getElem?_eq_none h]
  rfl

theorem lt_of_next? (hrows : d.rows.size = d.size) {s t : ℕ} {b : UInt8}
    (h : d.next? s b = some t) : s < d.size := by
  by_contra hs
  simp [next?, row_of_le (hrows ▸ not_lt.mp hs)] at h

/-- There is a start, and bytes lead from states to states. -/
structure WellFormed (d : Dfa) : Prop where
  start_lt : start < d.size
  next_lt : ∀ {s t : ℕ} {b : UInt8}, d.next? s b = some t → s < d.size ∧ t < d.size

theorem WellFormed.walk_lt (h : d.WellFormed) {bs : List UInt8} {s t : ℕ} (hs : s < d.size)
    (hwalk : d.walk? s bs = some t) : t < d.size := by
  induction bs generalizing s with
  | nil => exact Option.some.inj hwalk ▸ hs
  | cons b bs ih =>
    rw [walk?_cons, Option.bind_eq_some_iff] at hwalk
    obtain ⟨u, hu, hwalk⟩ := hwalk
    exact ih (h.next_lt hu).2 hwalk

/-- A walk to an accepting state goes through live states. -/
theorem live_of_walk? (hrows : d.rows.size = d.size) {bs : List UInt8} {s t : ℕ}
    (h : d.walk? s bs = some t) (ht : d.isAccepting t) : d.Live s := by
  induction bs generalizing s with
  | nil =>
    obtain rfl := Option.some.inj h
    exact ⟨lt_of_isAccepting ht, s, ht, .refl⟩
  | cons b bs ih =>
    rw [walk?_cons, Option.bind_eq_some_iff] at h
    obtain ⟨u, hu, h⟩ := h
    obtain ⟨hlt, v, hv, hpath⟩ := ih h
    exact ⟨lt_of_next? hrows hu, v, hv, hpath.head ⟨mem_successors_of_next? hu, hlt⟩⟩

theorem contains_live {s : ℕ} :
    (reachable d.size (fun j => (predecessors d.size d.successors).getD j []) d.acceptingStates).contains s ↔
      d.Live s := by
  rw [contains_reachable_predecessors]
  refine and_congr_right fun _ => exists_congr fun t => ?_
  rw [mem_acceptingStates]
  exact and_congr_right fun ht => and_iff_right (lt_of_isAccepting ht)

/-- One automaton is another without some of its states. The states that are kept are those on the way from
the start to an accepting state, and each has the number at which it stands in breadth-first order. -/
structure Trims (d d' : Dfa) (order : List StateId) : Prop where
  classes : d'.classes = d.classes
  rows : d'.rows.size = order.length
  accepting : d'.accepting = (order.map d.isAccepting).toArray
  numbered : BreadthFirst (fun s => (d.successors s).filter (· ∈ order)) Dfa.start order
  mem_iff : ∀ s, s ∈ order ↔ d.Live s ∧ Reached d.size d.successors [Dfa.start] s
  row : ∀ {k s : ℕ}, order[k]? = some s → d'.row k = (d.row s).map (Option.bind · order.idxOf?)

/-- What is kept is reached through what is kept. -/
private theorem reached_filter_iff {live : ℕ → Bool} (hlive : ∀ s, live s ↔ d.Live s)
    (hstart : live start) (s : ℕ) :
    Reached d.size (fun s => (d.successors s).filter live) [start] s ↔
      d.Live s ∧ Reached d.size d.successors [start] s := by
  constructor
  · intro h
    refine ⟨?_, ?_⟩
    · refine h.mem_of_closed (P := d.Live) (fun i hi _ => ?_) fun i _ j hj _ => ?_
      · exact (hlive i).mp (List.mem_singleton.mp hi ▸ hstart)
      · exact (hlive j).mp (List.mem_filter.mp hj).2
    · exact h.mem_of_closed (fun i hi hn => .seed hi hn)
        fun i hi j hj hn => hi.step (List.mem_filter.mp hj).1 hn
  · rintro ⟨hs, i, hi, hn, hpath⟩
    induction hpath with
    | refl => exact .seed hi hn
    | @tail a b hpre he ih =>
      obtain ⟨hlt, t, ht, hrest⟩ := hs
      have ha : a < d.size := Reached.lt ⟨i, hi, hn, hpre⟩
      exact (ih ⟨ha, t, ht, hrest.head he⟩).step
        (List.mem_filter.mpr ⟨he.1, (hlive b).mpr ⟨hlt, t, ht, hrest⟩⟩) he.2

private def numbering (n : ℕ) (order : Array StateId) (m : ℕ) : Array (Option StateId) :=
  (List.range m).foldl (fun number i => number.setIfInBounds (order.getD i 0) (some i))
    (Array.replicate n none)

private theorem numbering_succ (n : ℕ) (order : Array StateId) (m : ℕ) :
    numbering n order (m + 1) =
      (numbering n order m).setIfInBounds (order.getD m 0) (some m) := by
  rw [numbering, List.range_succ, List.foldl_append]
  rfl

private theorem size_numbering (n : ℕ) (order : Array StateId) (m : ℕ) :
    (numbering n order m).size = n := by
  induction m with
  | zero => simp [numbering]
  | succ m ih => rw [numbering_succ, Array.size_setIfInBounds, ih]

private theorem getElem?_numbering {n : ℕ} {order : Array StateId} (hnodup : order.toList.Nodup)
    (hlt : ∀ s ∈ order, s < n) {m : ℕ} (hm : m ≤ order.size) (t i : ℕ) :
    (numbering n order m)[t]? = some (some i) ↔ i < m ∧ order[i]? = some t := by
  induction m with
  | zero => simp [numbering, Array.getElem?_replicate]
  | succ m ih =>
    have hget : order[m]? = some order[m] := Array.getElem?_eq_getElem hm
    have hsn : order[m] < (numbering n order m).size := by
      rw [size_numbering]
      exact hlt _ (Array.getElem_mem hm)
    have hs : order.getD m 0 = order[m] := by rw [Array.getD_eq_getD_getElem?, hget]; rfl
    rw [numbering_succ, Array.getElem?_setIfInBounds, hs]
    by_cases ht : order[m] = t
    · subst ht
      rw [if_pos rfl, if_pos hsn, Option.some.injEq, Option.some.injEq]
      constructor
      · rintro rfl
        exact ⟨Nat.lt_succ_self m, hget⟩
      · rintro ⟨-, h⟩
        rw [← hget, ← Array.getElem?_toList, ← Array.getElem?_toList] at h
        exact (List.getElem?_inj hm hnodup).mp h.symm
    · rw [if_neg ht, ih (Nat.le_of_succ_le hm)]
      refine and_congr_left fun h => ?_
      have hne : i ≠ m := by
        rintro rfl
        exact ht (Option.some.inj (hget.symm.trans h))
      omega

theorem idxOf?_eq_some_iff_of_nodup {l : List ℕ} (h : l.Nodup) {a i : ℕ} :
    l.idxOf? a = some i ↔ l[i]? = some a := by
  rw [List.idxOf?_eq_some_iff, List.getElem?_eq_some_iff]
  refine exists_congr fun hi => and_iff_left_of_imp fun ha j hj hja => ?_
  exact hj.ne ((h.getElem_inj_iff).mp (hja.trans ha.symm))

private theorem getD_numbering {n : ℕ} {order : Array StateId} (hnodup : order.toList.Nodup)
    (hlt : ∀ s ∈ order, s < n) (t : StateId) :
    (numbering n order order.size).getD t none = order.toList.idxOf? t := by
  refine Option.ext fun i => ?_
  have hget := getElem?_numbering hnodup hlt le_rfl t i
  have hsome : order[i]? = some t → i < order.size := fun h => (Array.getElem?_eq_some_iff.mp h).1
  rw [idxOf?_eq_some_iff_of_nodup hnodup, Array.getElem?_toList, ← and_iff_right_of_imp hsome, ← hget,
    Array.getD_eq_getD_getElem?]
  cases (numbering n order order.size)[t]? <;> simp

/-- The states that are kept are numbered in breadth-first order. -/
theorem trim?_trims (h : d.trim? = some d') : ∃ order, Trims d d' order := by
  unfold trim? at h
  simp only at h
  split at h
  · rename_i hstart
    cases h
    have hlive (s : ℕ) := contains_live (d := d) (s := s)
    generalize reachable d.size _ d.acceptingStates = live at *
    have hlt : start < d.size := ((hlive start).mp hstart).1
    have hsucc (i j : ℕ) (hj : j ∈ (d.successors i).filter live.contains) : j < d.size :=
      ((hlive j).mp (List.mem_filter.mp hj).2).1
    have hfirst := breadthFirst_spec hlt hsucc
    have hmem := hfirst.mem_iff hlt hsucc
    simp only [reached_filter_iff hlive hstart] at hmem
    generalize breadthFirst d.size _ start = order at *
    -- what is kept leads to what is live, which is kept then
    have hkept (s : ℕ) (hs : s ∈ order.toList) :
        (d.successors s).filter live.contains = (d.successors s).filter (· ∈ order.toList) := by
      refine List.filter_congr fun t ht => ?_
      rw [Bool.eq_iff_iff, hlive, decide_eq_true_iff, hmem]
      exact (and_iff_left_of_imp fun hl => ((hmem s).mp hs).2.step ht hl.1).symm
    have haccepting : order.map d.isAccepting = (order.toList.map d.isAccepting).toArray := by
      rw [← Array.toList_map, Array.toArray_toList]
    refine ⟨order.toList, rfl, by simp, haccepting, hfirst.congr hkept, hmem, fun {k s} hk => ?_⟩
    have hnumber := getD_numbering hfirst.nodup
      (fun s hs => ((hmem s).mp (Array.mem_toList_iff.mpr hs)).1.1)
    rw [Array.getElem?_toList] at hk
    change ((order.map fun s => (d.row s).map fun t => t.bind fun t =>
      (numbering d.size order order.size).getD t none).getD k #[]) = _
    simp only [hnumber, Array.getD_eq_getD_getElem?, Array.getElem?_map, hk, Option.map_some,
      Option.getD_some]
  · simp at h

theorem exists_trim? (h : d.Live start) : ∃ d', d.trim? = some d' := by
  unfold trim?
  simp only [contains_live.mpr h, if_true, Option.some.injEq, exists_eq']

namespace Trims

variable {order : List StateId}

theorem start (h : Trims d d' order) : order[0]? = some Dfa.start := h.numbered.head

theorem isAccepting_eq (h : Trims d d' order) {k s : ℕ} (hk : order[k]? = some s) :
    d'.isAccepting k = d.isAccepting s := by
  simp [isAccepting, h.accepting, Array.getD_eq_getD_getElem?, hk]

theorem size_eq (h : Trims d d' order) : d'.size = order.length := by
  rw [size, h.accepting, List.size_toArray, List.length_map]

theorem size_rows (h : Trims d d' order) : d'.rows.size = d'.size := h.rows.trans h.size_eq.symm

/-- The target of a kept state is the target it had, unless that one is not kept. -/
theorem next (h : Trims d d' order) {k s : ℕ} (hk : order[k]? = some s) (b : UInt8) :
    d'.next? k b = (d.next? s b).bind order.idxOf? := by
  rw [next?, next?, h.row hk, h.classes, Array.getElem?_map]
  cases (d.row s)[d.classes.get b]? <;> rfl

theorem next_iff (h : Trims d d' order) {k s : ℕ} (hk : order[k]? = some s) (b : UInt8) (k' : ℕ) :
    d'.next? k b = some k' ↔ ∃ t, d.next? s b = some t ∧ order[k']? = some t := by
  simp only [h.next hk, Option.bind_eq_some_iff, idxOf?_eq_some_iff_of_nodup h.numbered.nodup]

theorem wellFormed (h : Trims d d' order) : d'.WellFormed := by
  refine ⟨h.size_eq ▸ (List.getElem?_eq_some_iff.mp h.start).1, fun {s t b} hnext => ?_⟩
  have hs := lt_of_next? h.size_rows hnext
  obtain ⟨u, -, hu⟩ := (h.next_iff (List.getElem?_eq_getElem (h.size_eq ▸ hs)) b t).mp hnext
  exact ⟨hs, h.size_eq ▸ (List.getElem?_eq_some_iff.mp hu).1⟩

theorem walk_iff (h : Trims d d' order) (hrows : d.rows.size = d.size) {bs : List UInt8} {k s : ℕ}
    (hk : order[k]? = some s) :
    (d'.walk? k bs).any d'.isAccepting ↔ (d.walk? s bs).any d.isAccepting := by
  induction bs generalizing k s with
  | nil => simp [walk?, h.isAccepting_eq hk]
  | cons b bs ih =>
    have hnext := h.next_iff hk b
    rw [walk?_cons, walk?_cons]
    cases ht : d.next? s b with
    | none =>
      have : d'.next? k b = none := Option.eq_none_iff_forall_ne_some.mpr fun k' hk' => by
        simpa [ht] using (hnext k').mp hk'
      simp [this]
    | some t =>
      cases hk' : d'.next? k b with
      | none =>
        -- a target that is not kept is not live
        simp only [Option.bind_none, Option.any_none, Option.bind_some, Bool.false_eq_true, false_iff]
        intro hacc
        obtain ⟨u, hu, hu'⟩ := (Option.any_eq_true _ _).mp hacc
        have hlive := live_of_walk? hrows hu hu'
        have hreached := ((h.mem_iff s).mp (List.mem_of_getElem? hk)).2
        have hmem := (h.mem_iff t).mpr ⟨hlive, hreached.step (mem_successors_of_next? ht) hlive.1⟩
        obtain ⟨k', hget⟩ := List.mem_iff_getElem?.mp hmem
        have := (hnext k').mpr ⟨t, ht, hget⟩
        simp [hk'] at this
      | some k' =>
        obtain ⟨t', ht', hget⟩ := (hnext k').mp hk'
        obtain rfl := Option.some.inj (ht.symm.trans ht')
        exact ih hget

/-- Trimming does not change what is accepted. -/
theorem accepts_iff (h : Trims d d' order) (hrows : d.rows.size = d.size) (bs : List UInt8) :
    d'.accepts bs ↔ d.accepts bs :=
  h.walk_iff hrows h.start

end Trims

end ConstrainedDecoding.Automaton.Dfa
