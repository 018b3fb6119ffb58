import ConstrainedDecoding.Proofs.Automaton.Search
import Mathlib.Data.List.Perm.Subperm

/-! Breadth-first search. Its order is determined by the graph: the nodes stand in it as they first occur
among the start and the successors of the nodes in the order itself. -/
namespace ConstrainedDecoding

section FirstOccurrences

variable {α β : Type} [BEq α] [LawfulBEq α] [BEq β] [LawfulBEq β] {a : α} {xs ys : List α}

theorem nodup_eraseDups (xs : List α) : xs.eraseDups.Nodup := by
  match xs with
  | [] => simp
  | x :: xs =>
    rw [List.eraseDups_cons, List.nodup_cons, List.mem_eraseDups]
    exact ⟨by simp, nodup_eraseDups _⟩
termination_by xs.length
decreasing_by exact Nat.lt_succ_of_le (List.length_filter_le _ _)

theorem eraseDups_of_nodup (h : xs.Nodup) : xs.eraseDups = xs := by
  induction xs with
  | nil => rfl
  | cons x xs ih =>
    rw [List.nodup_cons] at h
    have hfilter : xs.filter (fun y => !y == x) = xs :=
      List.filter_eq_self.mpr fun y hy => by simpa using fun he : y = x => h.1 (he ▸ hy)
    rw [List.eraseDups_cons, hfilter, ih h.2]

theorem eraseDups_prefix_append (xs ys : List α) : xs.eraseDups <+: (xs ++ ys).eraseDups := by
  rw [List.eraseDups_append]
  exact List.prefix_append _ _

/-- What is erased beforehand makes no difference. -/
theorem eraseDups_eraseDups_append (xs ys : List α) :
    (xs.eraseDups ++ ys).eraseDups = (xs ++ ys).eraseDups := by
  have hremove : ys.removeAll xs.eraseDups = ys.removeAll xs :=
    List.filter_congr fun y _ => by simp
  rw [List.eraseDups_append, List.eraseDups_append, eraseDups_of_nodup (nodup_eraseDups xs), hremove]

theorem eraseDups_append_cons_of_mem (h : a ∈ xs) :
    (xs ++ a :: ys).eraseDups = (xs ++ ys).eraseDups := by
  simp [List.eraseDups_append, List.cons_removeAll, h]

/-- Renaming by names of its own for every element. -/
theorem eraseDups_map {f : α → β} {xs : List α} (hf : ∀ x ∈ xs, ∀ y ∈ xs, f x = f y → x = y) :
    (xs.map f).eraseDups = xs.eraseDups.map f := by
  match xs with
  | [] => rfl
  | x :: xs =>
    have hfilter : (xs.map f).filter (fun b => !b == f x) = (xs.filter fun y => !y == x).map f := by
      rw [List.filter_map]
      refine congrArg _ (List.filter_congr fun y hy => ?_)
      have hxy : f y = f x ↔ y = x :=
        ⟨hf y (List.mem_cons_of_mem _ hy) x List.mem_cons_self, congrArg f⟩
      rw [Function.comp_apply, Bool.not_eq_eq_eq_not, Bool.not_not, Bool.eq_iff_iff, beq_iff_eq, beq_iff_eq, hxy]
    have hrest : ∀ y ∈ xs.filter fun y => !y == x, y ∈ x :: xs :=
      fun y hy => List.mem_cons_of_mem _ (List.mem_filter.mp hy).1
    rw [List.map_cons, List.eraseDups_cons, List.eraseDups_cons, hfilter,
      eraseDups_map fun y hy z hz => hf y (hrest y hy) z (hrest z hz), List.map_cons]
termination_by xs.length
decreasing_by exact Nat.lt_succ_of_le (List.length_filter_le _ _)

end FirstOccurrences

/-- A list is the breadth-first order from a start: it is what occurs first among the start and the
successors of its own nodes, and what precedes a node has led to it. -/
structure BreadthFirst (succ : ℕ → List ℕ) (start : ℕ) (order : List ℕ) : Prop where
  -- without `found`, nodes on a cycle that nothing leads to could list each other
  fixed : (start :: order.flatMap succ).eraseDups = order
  found : ∀ k i, order[k]? = some i → i ∈ start :: (order.take k).flatMap succ

namespace BreadthFirst

variable {succ succ' : ℕ → List ℕ} {start n : ℕ} {order order' : List ℕ}

theorem nodup (h : BreadthFirst succ start order) : order.Nodup :=
  h.fixed ▸ nodup_eraseDups _

theorem head (h : BreadthFirst succ start order) : order[0]? = some start := by
  rw [← h.fixed, List.eraseDups_cons, List.getElem?_cons_zero]

theorem mem_of_mem_succ (h : BreadthFirst succ start order) {i j : ℕ} (hi : i ∈ order)
    (hj : j ∈ succ i) : j ∈ order := by
  rw [← h.fixed, List.mem_eraseDups]
  exact List.mem_cons_of_mem _ (List.mem_flatMap.mpr ⟨i, hi, hj⟩)

theorem mem_iff (h : BreadthFirst succ start order) (hstart : start < n)
    (hsucc : ∀ i, ∀ j ∈ succ i, j < n) (i : ℕ) : i ∈ order ↔ Reached n succ [start] i := by
  constructor
  · intro hi
    obtain ⟨k, hk⟩ := List.mem_iff_getElem?.mp hi
    induction k using Nat.strong_induction_on generalizing i with
    | _ k ih =>
      rcases List.mem_cons.mp (h.found k i hk) with rfl | hfound
      · exact .seed (by simp) hstart
      · obtain ⟨j, hj, hij⟩ := List.mem_flatMap.mp hfound
        obtain ⟨l, hl⟩ := List.mem_iff_getElem?.mp hj
        rw [List.getElem?_take, Option.ite_none_right_eq_some] at hl
        exact (ih l hl.1 j (List.mem_of_mem_take hj) hl.2).step hij (hsucc j i hij)
  · intro hi
    refine hi.mem_of_closed (fun s hs _ => ?_) fun i hi j hj _ => h.mem_of_mem_succ hi hj
    exact List.mem_singleton.mp hs ▸ List.mem_of_getElem? h.head

/-- What the nodes before a position lead to comes first. -/
private theorem prefix_of_take (h : BreadthFirst succ start order) (k : ℕ) :
    (start :: (order.take k).flatMap succ).eraseDups <+: order := by
  have hsplit : start :: order.flatMap succ =
      (start :: (order.take k).flatMap succ) ++ (order.drop k).flatMap succ := by
    rw [List.cons_append, ← List.flatMap_append, List.take_append_drop]
  have hpre := eraseDups_prefix_append (start :: (order.take k).flatMap succ)
    ((order.drop k).flatMap succ)
  rwa [← hsplit, h.fixed] at hpre

/-- The nodes before a position determine the node at the position. -/
private theorem take_succ_prefix (h : BreadthFirst succ start order) {k : ℕ} (hk : k < order.length) :
    order.take (k + 1) <+: (start :: (order.take k).flatMap succ).eraseDups := by
  have hpre := h.prefix_of_take k
  have hmem := List.mem_eraseDups.mpr (h.found k _ (List.getElem?_eq_getElem hk))
  obtain ⟨l, hl⟩ := List.mem_iff_getElem?.mp hmem
  have hlt := (List.getElem?_eq_some_iff.mp hl).1
  have hget : order[l]? = order[k]? := by
    rw [List.prefix_iff_getElem?.mp hpre l hlt, ← List.getElem?_eq_getElem hlt, hl,
      List.getElem?_eq_getElem hk]
  obtain rfl : l = k :=
    ((List.getElem?_inj hk h.nodup).mp hget.symm).symm
  refine List.prefix_of_prefix_length_le (List.take_prefix _ _) hpre ?_
  rw [List.length_take]
  exact (Nat.min_le_left _ _).trans hlt

private theorem prefix_of_breadthFirst (h : BreadthFirst succ start order)
    (h' : BreadthFirst succ start order') : order <+: order' := by
  have htake : ∀ k ≤ order.length, order.take k <+: order' := by
    intro k hk
    induction k with
    | zero => simp
    | succ k ih =>
      have hk' : order.take k = order'.take k := by
        have := List.prefix_iff_eq_take.mp (ih (Nat.le_of_succ_le hk))
        rwa [List.length_take, Nat.min_eq_left (Nat.le_of_succ_le hk)] at this
      have hnext := h.take_succ_prefix hk
      rw [hk'] at hnext
      exact hnext.trans (h'.prefix_of_take k)
  simpa using htake order.length le_rfl

/-- A graph has one breadth-first order from a start. -/
theorem unique (h : BreadthFirst succ start order) (h' : BreadthFirst succ start order') :
    order = order' :=
  (h.prefix_of_breadthFirst h').eq_of_length_le (h'.prefix_of_breadthFirst h).length_le

theorem congr (h : BreadthFirst succ start order) (hsucc : ∀ i ∈ order, succ i = succ' i) :
    BreadthFirst succ' start order := by
  have hflat {l : List ℕ} (hl : l ⊆ order) : l.flatMap succ = l.flatMap succ' :=
    List.flatMap_congr fun i hi => hsucc i (hl hi)
  refine ⟨?_, fun k i hk => ?_⟩
  · rw [← hflat (List.Subset.refl order)]
    exact h.fixed
  · rw [← hflat (List.take_subset k order)]
    exact h.found k i hk

theorem map (h : BreadthFirst succ start order) {f : ℕ → ℕ}
    (hf : ∀ i ∈ order, ∀ j ∈ order, f i = f j → i = j)
    (hsucc : ∀ i ∈ order, succ' (f i) = (succ i).map f) :
    BreadthFirst succ' (f start) (order.map f) := by
  have hflat {l : List ℕ} (hl : l ⊆ order) :
      f start :: (l.map f).flatMap succ' = (start :: l.flatMap succ).map f := by
    rw [List.flatMap_map, List.map_cons, List.map_flatMap,
      List.flatMap_congr fun i hi => hsucc i (hl hi)]
  have hmem {i : ℕ} (hi : i ∈ start :: order.flatMap succ) : i ∈ order := by
    rwa [← List.mem_eraseDups, h.fixed] at hi
  refine ⟨?_, fun k i hk => ?_⟩
  · rw [hflat (List.Subset.refl order), eraseDups_map fun i hi j hj => hf i (hmem hi) j (hmem hj),
      h.fixed]
  · rw [List.getElem?_map, Option.map_eq_some_iff] at hk
    obtain ⟨j, hj, rfl⟩ := hk
    rw [← List.map_take, hflat (List.take_subset k order)]
    exact List.mem_map_of_mem (h.found k j hj)

end BreadthFirst

private structure Queued (n : ℕ) (m : Marks) (queue : Array ℕ) : Prop where
  size : m.stamps.size = n
  contains_iff : ∀ i, m.contains i ↔ i ∈ queue
  nodup : queue.toList.Nodup

private theorem Queued.size_le {n : ℕ} {m : Marks} {queue : Array ℕ} (h : Queued n m queue) :
    queue.size ≤ n := by
  have hsub : queue.toList ⊆ List.range n := fun i hi => by
    rw [List.mem_range, ← h.size]
    exact Marks.contains_lt ((h.contains_iff i).mpr (Array.mem_toList_iff.mp hi))
  simpa using (List.subperm_of_subset h.nodup hsub).length_le

private theorem Queued.push {n : ℕ} {m : Marks} {queue : Array ℕ} (h : Queued n m queue) {a : ℕ}
    (ha : a < m.stamps.size ∧ m.contains a = false) : Queued n (m.insert a) (queue.push a) := by
  refine ⟨(m.size_insert a).trans h.size, fun i => ?_, ?_⟩
  · rw [m.contains_insert ha.1, Bool.or_eq_true, h.contains_iff, beq_iff_eq, Array.mem_push,
      eq_comm (a := a)]
  · have : a ∉ queue := fun hm => by simp [(h.contains_iff a).mpr hm] at ha
    simpa [List.nodup_append, h.nodup] using fun b hb (he : b = a) => this (he ▸ hb)

/-- What is not in a queue yet is appended to it, as it first occurs. -/
private theorem enqueue_queued {n : ℕ} {m : Marks} {queue : Array ℕ} (h : Queued n m queue)
    {l : List ℕ} (hl : ∀ i ∈ l, i < n) :
    Queued n (enqueue m queue l).1 (enqueue m queue l).2 ∧
      (enqueue m queue l).2.toList = (queue.toList ++ l).eraseDups := by
  fun_induction enqueue m queue l with
  | case1 m queue => exact ⟨h, by rw [List.append_nil, eraseDups_of_nodup h.nodup]⟩
  | case2 m queue a rest ha ih =>
    obtain ⟨hr, hlist⟩ := ih (h.push ha) fun i hi => hl i (List.mem_cons_of_mem _ hi)
    exact ⟨hr, by rw [hlist, Array.toList_push, List.append_assoc, List.singleton_append]⟩
  | case3 m queue a rest ha ih =>
    obtain ⟨hr, hlist⟩ := ih h fun i hi => hl i (List.mem_cons_of_mem _ hi)
    have hlt : a < n := hl a List.mem_cons_self
    have hmem : a ∈ queue := (h.contains_iff a).mp (by simpa [h.size, hlt] using ha)
    exact ⟨hr, by rw [hlist, eraseDups_append_cons_of_mem (Array.mem_toList_iff.mpr hmem)]⟩

/-- The queue of a search when the nodes before position `current` are taken up. -/
private structure Advanced (succ : ℕ → List ℕ) (start current : ℕ) (queue : List ℕ) : Prop where
  fixed : (start :: (queue.take current).flatMap succ).eraseDups = queue
  found : ∀ k i, queue[k]? = some i → i ∈ start :: (queue.take k).flatMap succ

private theorem Advanced.step {succ : ℕ → List ℕ} {start current i : ℕ} {queue : List ℕ}
    (h : Advanced succ start current queue) (hi : queue[current]? = some i) :
    Advanced succ start (current + 1) (queue ++ succ i).eraseDups := by
  have hnodup : queue.Nodup := h.fixed ▸ nodup_eraseDups _
  obtain ⟨new, hnew⟩ : queue <+: (queue ++ succ i).eraseDups := by
    have := eraseDups_prefix_append queue (succ i)
    rwa [eraseDups_of_nodup hnodup] at this
  have hlt : current < queue.length := (List.getElem?_eq_some_iff.mp hi).1
  have htake {k : ℕ} (hk : k ≤ queue.length) :
      (queue ++ succ i).eraseDups.take k = queue.take k := by
    rw [← hnew, List.take_append_of_le_length hk]
  have hcurrent : queue.take (current + 1) = queue.take current ++ [i] := by
    rw [List.take_add_one, hi, Option.toList_some]
  refine ⟨?_, fun k j hk => ?_⟩
  · rw [htake hlt, hcurrent, List.flatMap_append, List.flatMap_singleton, ← List.cons_append,
      ← eraseDups_eraseDups_append, h.fixed]
  · by_cases hkq : k < queue.length
    · rw [← hnew, List.getElem?_append_left hkq] at hk
      rw [htake hkq.le]
      exact h.found k j hk
    · -- a node behind the old queue is in the queue already or follows the node that is taken up
      have hmem : j ∈ queue ++ succ i := List.mem_eraseDups.mp (List.mem_of_getElem? hk)
      have hpre : queue <+: (queue ++ succ i).eraseDups.take k := by
        rw [← hnew, List.take_append, List.take_of_length_le (not_lt.mp hkq)]
        exact List.prefix_append _ _
      have hflat {l : ℕ} (hl : l ∈ queue) {b : ℕ} (hb : b ∈ succ l) :
          b ∈ start :: ((queue ++ succ i).eraseDups.take k).flatMap succ :=
        List.mem_cons_of_mem _ (List.mem_flatMap.mpr ⟨l, hpre.subset hl, hb⟩)
      rcases List.mem_append.mp hmem with hj | hj
      · rw [← h.fixed, List.mem_eraseDups] at hj
        rcases List.mem_cons.mp hj with rfl | hj
        · exact List.mem_cons_self
        · obtain ⟨l, hl, hlj⟩ := List.mem_flatMap.mp hj
          exact hflat (List.mem_of_mem_take hl) hlj
      · exact hflat (List.mem_of_getElem? hi) hj

private theorem breadthFirstFrom_advanced {n : ℕ} {succ : ℕ → List ℕ} {start : ℕ}
    (hsucc : ∀ i, ∀ j ∈ succ i, j < n) (fuel current : ℕ) (m : Marks) (queue : Array ℕ)
    (hn : n ≤ fuel + current) (hq : Queued n m queue) (ha : Advanced succ start current queue.toList) :
    BreadthFirst succ start (breadthFirstFrom succ fuel current m queue).toList := by
  fun_induction breadthFirstFrom succ fuel current m queue with
  | case1 current m queue fuel i hi m' queue' he ih =>
    obtain ⟨hq', hlist⟩ := enqueue_queued hq (hsucc i)
    rw [he] at hq' hlist
    have hstep := ha.step (i := i) (by rwa [Array.getElem?_toList])
    exact ih (by omega) hq' (hlist ▸ hstep)
  | case2 fuel current m queue hstop =>
    -- the search stops at the end of the queue or, without fuel, behind all nodes
    have hend : queue.toList.length ≤ current := by
      rw [Array.length_toList]
      cases fuel with
      | zero => exact hq.size_le.trans (by omega)
      | succ fuel =>
        by_contra hlt
        exact hstop fuel _ rfl (Array.getElem?_eq_getElem (not_le.mp hlt))
    have hfixed := ha.fixed
    rw [List.take_of_length_le hend] at hfixed
    exact ⟨hfixed, ha.found⟩

/-- The search lists the nodes in breadth-first order. -/
theorem breadthFirst_spec {n : ℕ} {succ : ℕ → List ℕ} {start : ℕ} (hs : start < n)
    (hsucc : ∀ i, ∀ j ∈ succ i, j < n) : BreadthFirst succ start (breadthFirst n succ start).toList := by
  have hnone : Queued n (.none n) #[] := ⟨by simp, by simp, by simp⟩
  obtain ⟨hq, hlist⟩ := enqueue_queued hnone (l := [start]) (by simpa using hs)
  have hqueue : (enqueue (.none n) #[] [start]).2.toList = [start] :=
    hlist.trans (eraseDups_of_nodup (List.nodup_singleton start))
  have ha : Advanced succ start 0 (enqueue (.none n) #[] [start]).2.toList := by
    rw [hqueue]
    refine ⟨by simp [eraseDups_of_nodup], fun k i hk => ?_⟩
    exact List.mem_cons.mpr (.inl (List.mem_singleton.mp (List.mem_of_getElem? hk)))
  exact breadthFirstFrom_advanced hsucc n 0 _ _ le_rfl hq ha

end ConstrainedDecoding
