import ConstrainedDecoding.Automaton.Search
import Mathlib.Data.List.Nodup
import Mathlib.Data.List.Range
import Mathlib.Logic.Relation

/-! Depth-first searches of finite graphs find exactly the nodes that paths lead to. -/
namespace ConstrainedDecoding

def Edge (n : ℕ) (succ : ℕ → List ℕ) (i j : ℕ) : Prop := j ∈ succ i ∧ j < n

def Reached (n : ℕ) (succ : ℕ → List ℕ) (seeds : List ℕ) (i : ℕ) : Prop :=
  ∃ s ∈ seeds, s < n ∧ Relation.ReflTransGen (Edge n succ) s i

namespace Reached

variable {n : ℕ} {succ : ℕ → List ℕ} {seeds : List ℕ} {i j : ℕ}

theorem seed (hi : i ∈ seeds) (hn : i < n) : Reached n succ seeds i :=
  ⟨i, hi, hn, .refl⟩

theorem step (h : Reached n succ seeds i) (hj : j ∈ succ i) (hn : j < n) :
    Reached n succ seeds j := by
  obtain ⟨s, hs, hsn, hp⟩ := h
  exact ⟨s, hs, hsn, hp.tail ⟨hj, hn⟩⟩

theorem lt (h : Reached n succ seeds i) : i < n := by
  obtain ⟨s, _, hsn, hp⟩ := h
  induction hp with
  | refl => exact hsn
  | tail _ he _ => exact he.2

theorem mono {seeds' : List ℕ} (h : Reached n succ seeds i) (hs : seeds ⊆ seeds') :
    Reached n succ seeds' i := by
  obtain ⟨s, hm, hsn, hp⟩ := h
  exact ⟨s, hs hm, hsn, hp⟩

/-- A set of nodes that holds the seeds and all successors holds what is reached. -/
theorem mem_of_closed {P : ℕ → Prop} (h : Reached n succ seeds i)
    (hs : ∀ s ∈ seeds, s < n → P s) (hc : ∀ i, P i → ∀ j ∈ succ i, j < n → P j) : P i := by
  obtain ⟨s, hm, hsn, hp⟩ := h
  induction hp with
  | refl => exact hs s hm hsn
  | tail _ he ih => exact hc _ ih _ he.1 he.2

end Reached

namespace Marks

/-- No node bears a stamp that is still to come. -/
def Bounded (m : Marks) : Prop := ∀ s ∈ m.stamps, s ≤ m.stamp

theorem contains_lt {m : Marks} {i : ℕ} (h : m.contains i) : i < m.stamps.size := by
  by_contra hn
  simp [contains, Array.getElem?_eq_none (not_lt.mp hn)] at h

@[simp] theorem size_none (n : ℕ) : (none n).stamps.size = n := by simp [none]

@[simp] theorem contains_none (n i : ℕ) : (none n).contains i = false := by
  by_cases h : i < n <;> simp [contains, none, h]

theorem bounded_none (n : ℕ) : (none n).Bounded := by
  intro s hs
  simp only [none, Array.mem_replicate] at hs
  simp [none, hs.2]

@[simp] theorem size_clear (m : Marks) : m.clear.stamps.size = m.stamps.size := rfl

theorem contains_clear {m : Marks} (hm : m.Bounded) (i : ℕ) : m.clear.contains i = false := by
  by_cases h : i < m.stamps.size
  · have := hm _ (m.stamps.getElem_mem h)
    simp only [contains, clear, Array.getElem?_eq_getElem h, Option.some_beq_some, beq_eq_false_iff_ne]
    omega
  · simp [contains, clear, Array.getElem?_eq_none (not_lt.mp h)]

theorem Bounded.clear {m : Marks} (hm : m.Bounded) : m.clear.Bounded :=
  fun s hs => (hm s hs).trans (Nat.le_succ _)

theorem Bounded.insert {m : Marks} (hm : m.Bounded) (i : ℕ) : (m.insert i).Bounded := by
  intro s hs
  rcases Array.mem_or_eq_of_mem_setIfInBounds hs with hs | rfl
  · exact hm s hs
  · exact le_rfl

end Marks

/-- What a depth-first search does: it lists before `found` the nodes that it marks, which are those
that are reached from the stack, up to nodes that were marked already. -/
structure Explored (succ : ℕ → List ℕ) (m : Marks) (stack found : List ℕ) (r : Marks × List ℕ) :
    Prop where
  size : r.1.stamps.size = m.stamps.size
  bounded : m.Bounded → r.1.Bounded
  mono : ∀ i, m.contains i → r.1.contains i
  seeds : ∀ i ∈ stack, i < m.stamps.size → r.1.contains i
  closed : ∀ i, r.1.contains i →
    m.contains i ∨ ∀ j ∈ succ i, j < m.stamps.size → r.1.contains j
  sound : ∀ i, r.1.contains i → m.contains i ∨ Reached m.stamps.size succ stack i
  listed : ∃ new, r.2 = new ++ found ∧ new.Nodup ∧
    ∀ i, i ∈ new ↔ r.1.contains i ∧ m.contains i = false

namespace Explored

variable {succ : ℕ → List ℕ} {m : Marks} {i : ℕ} {rest found : List ℕ} {r : Marks × List ℕ}

theorem visit (h : i < m.stamps.size ∧ m.contains i = false)
    (ih : Explored succ (m.insert i) (succ i ++ rest) (i :: found) r) :
    Explored succ m (i :: rest) found r := by
  have hins := m.contains_insert h.1
  have hsize := m.size_insert i
  refine ⟨ih.size.trans hsize, fun hb => ih.bounded (hb.insert i), ?_, ?_, ?_, ?_, ?_⟩
  · intro j hj
    exact ih.mono j (by simp [hins, hj])
  · intro j hj hlt
    rcases List.mem_cons.mp hj with rfl | hj
    · exact ih.mono j (by simp [hins])
    · exact ih.seeds j (List.mem_append_right _ hj) (hsize ▸ hlt)
  · intro j hj
    by_cases hij : i = j
    · subst hij
      exact .inr fun k hk hlt => ih.seeds k (List.mem_append_left _ hk) (hsize ▸ hlt)
    · have := ih.closed j hj
      simpa [hins, hij, hsize] using this
  · intro j hj
    by_cases hij : i = j
    · subst hij
      exact .inr (.seed (by simp) h.1)
    · rcases ih.sound j hj with hm | hr
      · exact .inl (by simpa [hins, hij] using hm)
      · refine .inr ((hsize ▸ hr).mem_of_closed ?_ fun a ha b hb hlt => ha.step hb hlt)
        intro s hs hlt
        rcases List.mem_append.mp hs with hs | hs
        · exact (Reached.seed (by simp) h.1).step hs hlt
        · exact .seed (by simp [hs]) hlt
  · obtain ⟨new, hnew, hnd, hmem⟩ := ih.listed
    refine ⟨new ++ [i], by simp [hnew], ?_, ?_⟩
    · refine List.Nodup.append hnd (List.nodup_singleton i) ?_
      simp [hmem, hins]
    · intro j
      by_cases hij : i = j
      · subst hij
        have := ih.mono i (by simp [hins])
        simp [this, h.2]
      · simp [hmem, hins, hij, Ne.symm hij]

/-- A node that is marked, or out of range, is passed over. -/
theorem skip (h : ¬ (i < m.stamps.size ∧ m.contains i = false)) (ih : Explored succ m rest found r) :
    Explored succ m (i :: rest) found r := by
  refine ⟨ih.size, ih.bounded, ih.mono, ?_, ih.closed, ?_, ih.listed⟩
  · intro j hj hlt
    rcases List.mem_cons.mp hj with rfl | hj
    · exact ih.mono j (by simpa [hlt] using h)
    · exact ih.seeds j hj hlt
  · intro j hj
    exact (ih.sound j hj).imp_right fun hr => hr.mono (List.subset_cons_self i rest)

end Explored

theorem explore_explored (succ : ℕ → List ℕ) (m : Marks) (stack found : List ℕ) :
    Explored succ m stack found (explore succ m stack found) := by
  fun_induction explore succ m stack found with
  | case1 m found =>
    exact ⟨rfl, id, fun _ => id, by simp, fun _ => .inl, fun _ => .inl, [], by simp, by simp, by simp⟩
  | case2 m found i rest h ih => exact ih.visit h
  | case3 m found i rest h ih => exact ih.skip h

/-- Without marks to begin with, a search marks what is reached from its stack. -/
theorem Explored.contains_iff {succ : ℕ → List ℕ} {m : Marks} {stack found : List ℕ}
    {r : Marks × List ℕ} (h : Explored succ m stack found r) (hm : ∀ i, m.contains i = false)
    (i : ℕ) : r.1.contains i ↔ Reached m.stamps.size succ stack i := by
  constructor
  · intro hi
    simpa [hm] using h.sound i hi
  · intro hi
    refine hi.mem_of_closed h.seeds fun a ha b hb hlt => ?_
    have := h.closed a ha
    simp only [hm, Bool.false_eq_true, false_or] at this
    exact this b hb hlt

theorem contains_reachable (n : ℕ) (succ : ℕ → List ℕ) (seeds : List ℕ) (i : ℕ) :
    (reachable n succ seeds).contains i ↔ Reached n succ seeds i := by
  have h := (explore_explored succ (.none n) seeds []).contains_iff (Marks.contains_none n) i
  rwa [Marks.size_none] at h

private theorem mem_foldl_modify (i x j : ℕ) (targets : List ℕ) (preds : Array (List ℕ)) :
    x ∈ (targets.foldl (fun preds j => preds.modify j (i :: ·)) preds).getD j [] ↔
      x ∈ preds.getD j [] ∨ x = i ∧ j ∈ targets ∧ j < preds.size := by
  induction targets generalizing preds with
  | nil => simp
  | cons t targets ih =>
    rw [List.foldl_cons, ih]
    by_cases hj : j < preds.size
    · by_cases ht : t = j
      · subst ht
        simp only [Array.getD_eq_getD_getElem?, Array.getElem?_modify, Array.size_modify, hj,
          Array.getElem?_eq_getElem hj, if_true, Option.map_some, Option.getD_some, List.mem_cons]
        tauto
      · simp only [Array.getD_eq_getD_getElem?, Array.getElem?_modify, Array.size_modify, ht,
          if_false, List.mem_cons]
        have : j ≠ t := Ne.symm ht
        tauto
    · simp [Array.getD_eq_getD_getElem?, hj]

private theorem size_foldl_modify (i : ℕ) (targets : List ℕ) (preds : Array (List ℕ)) :
    (targets.foldl (fun preds j => preds.modify j (i :: ·)) preds).size = preds.size := by
  induction targets generalizing preds with
  | nil => rfl
  | cons t targets ih => rw [List.foldl_cons, ih, Array.size_modify]

private theorem mem_foldl_predecessors (succ : ℕ → List ℕ) (i j : ℕ) (l : List ℕ)
    (preds : Array (List ℕ)) :
    i ∈ (l.foldl (fun preds i => (succ i).foldl (fun preds j => preds.modify j (i :: ·)) preds)
      preds).getD j [] ↔ i ∈ preds.getD j [] ∨ i ∈ l ∧ j ∈ succ i ∧ j < preds.size := by
  induction l generalizing preds with
  | nil => simp
  | cons a l ih =>
    rw [List.foldl_cons, ih, mem_foldl_modify, size_foldl_modify]
    constructor
    · rintro ((h | ⟨rfl, h⟩) | ⟨hi, h⟩)
      · exact .inl h
      · exact .inr ⟨List.mem_cons_self, h⟩
      · exact .inr ⟨List.mem_cons_of_mem _ hi, h⟩
    · rintro (h | ⟨hi, h⟩)
      · exact .inl (.inl h)
      · rcases List.mem_cons.mp hi with rfl | hi
        · exact .inl (.inr ⟨rfl, h⟩)
        · exact .inr ⟨hi, h⟩

theorem mem_predecessors (n : ℕ) (succ : ℕ → List ℕ) (i j : ℕ) :
    i ∈ (predecessors n succ).getD j [] ↔ i < n ∧ j < n ∧ j ∈ succ i := by
  unfold predecessors
  rw [mem_foldl_predecessors]
  simp only [List.mem_range, Array.size_replicate, Array.getD_eq_getD_getElem?]
  by_cases hj : j < n <;> simp [hj, and_comm]

/-- Searching backwards from targets finds the nodes that have a path to one of them. -/
theorem contains_reachable_predecessors (n : ℕ) (succ : ℕ → List ℕ) (targets : List ℕ) (i : ℕ) :
    (reachable n (fun j => (predecessors n succ).getD j []) targets).contains i ↔
      i < n ∧ ∃ t ∈ targets, t < n ∧ Relation.ReflTransGen (Edge n succ) i t := by
  rw [contains_reachable]
  constructor
  · intro h
    refine h.mem_of_closed
      (P := fun a => a < n ∧ ∃ t ∈ targets, t < n ∧ Relation.ReflTransGen (Edge n succ) a t)
      (fun s hs hn => ⟨hn, s, hs, hn, .refl⟩) ?_
    rintro a ⟨_, t, ht, htn, hp⟩ b hb hlt
    obtain ⟨_, han, hab⟩ := (mem_predecessors n succ b a).mp hb
    exact ⟨hlt, t, ht, htn, hp.head ⟨hab, han⟩⟩
  · rintro ⟨hi, t, ht, htn, hp⟩
    induction hp using Relation.ReflTransGen.head_induction_on with
    | refl => exact .seed ht htn
    | head he _ ih => exact (ih he.2).step ((mem_predecessors n succ _ _).mpr ⟨hi, he.2, he.1⟩) hi

end ConstrainedDecoding
