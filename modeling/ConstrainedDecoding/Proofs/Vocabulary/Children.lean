import ConstrainedDecoding.Vocabulary.Trie
import Mathlib.Data.Nat.Basic

/-! Lists of children in the order of their bytes. Halving finds the child for a byte, or else the place where
a new child leaves the list in order. -/
namespace ConstrainedDecoding.Trie

variable {l : List (UInt8 × NodeId)} {p q : UInt8 × NodeId} {b c : UInt8} {i j lo hi : ℕ} {n : NodeId}

/-- The bytes of children go up, so that none has two children. -/
def Ascending (l : List (UInt8 × NodeId)) : Prop := l.Pairwise (·.1 < ·.1)

namespace Ascending

theorem nil : Ascending [] := List.Pairwise.nil

theorem lt (h : Ascending l) (hij : i < j) (hp : l[i]? = some p) (hq : l[j]? = some q) : p.1 < q.1 := by
  obtain ⟨hi, rfl⟩ := List.getElem?_eq_some_iff.mp hp
  obtain ⟨hj, rfl⟩ := List.getElem?_eq_some_iff.mp hq
  exact List.pairwise_iff_getElem.mp h i j hi hj hij

theorem le (h : Ascending l) (hij : i ≤ j) (hp : l[i]? = some p) (hq : l[j]? = some q) : p.1 ≤ q.1 := by
  rcases Nat.eq_or_lt_of_le hij with rfl | hij
  · rw [Option.some.inj (hp.symm.trans hq)]
    exact UInt8.le_refl _
  · exact UInt8.le_of_lt (h.lt hij hp hq)

end Ascending

@[simp] theorem search_nil : search [] b = none := by simp [search]

/-- The children before `lo` have bytes below `b`, and those from `hi` on have not. -/
private def Narrows (l : List (UInt8 × NodeId)) (b : UInt8) (lo hi : ℕ) : Prop :=
  ∀ (i : ℕ) (p : UInt8 × NodeId), l[i]? = some p → (i < lo → p.1 < b) ∧ (hi ≤ i → b ≤ p.1)

/-- The search keeps to the part of the list that is not decided yet. -/
private theorem Narrows.placeBetween (hl : Ascending l) (h : Narrows l b lo hi) (hle : lo ≤ hi)
    (hlen : hi ≤ l.length) :
    Narrows l b (placeBetween l b lo hi) (placeBetween l b lo hi) := by
  fun_induction Trie.placeBetween l b lo hi with
  | case1 lo hi hlt mid hbelow ih =>
    have hmid : mid < hi := by omega
    obtain ⟨q, hq, hqb⟩ := Option.any_eq_true _ _ |>.mp hbelow
    refine ih (fun i p hp => ⟨fun hi => ?_, (h i p hp).2⟩) (by omega) hlen
    exact UInt8.lt_of_le_of_lt (hl.le (by omega) hp hq) (of_decide_eq_true hqb)
  | case2 lo hi hlt mid hbelow ih =>
    have hmid : mid < hi := by omega
    have hq : l[mid]? = some l[mid] := List.getElem?_eq_getElem (by omega)
    have hqb : b ≤ l[mid].1 := by simpa [hq] using hbelow
    have hnarrow : Narrows l b lo mid := fun i p hp =>
      ⟨(h i p hp).1, fun hi => UInt8.le_trans hqb (hl.le hi hq hp)⟩
    exact ih hnarrow (by omega) (by omega)
  | case3 lo hi hnot =>
    obtain rfl : lo = hi := by omega
    exact h

private theorem narrows_place (hl : Ascending l) (b : UInt8) : Narrows l b (place l b) (place l b) := by
  refine Narrows.placeBetween hl (fun i p hp => ⟨fun hi => absurd hi i.not_lt_zero, fun hi => ?_⟩)
    (Nat.zero_le _) (Nat.le_refl _)
  exact absurd (List.getElem?_eq_some_iff.mp hp).1 (Nat.not_lt.mpr hi)

/-- The children before the place of a byte are those with smaller bytes. -/
theorem Ascending.lt_place_iff (hl : Ascending l) (hp : l[i]? = some p) : i < place l b ↔ p.1 < b := by
  have hnarrow := narrows_place hl b i p hp
  refine ⟨hnarrow.1, fun hlt => Nat.lt_of_not_le fun hle => ?_⟩
  exact UInt8.not_lt.mpr (hnarrow.2 hle) hlt

theorem Ascending.search_eq_some_iff (hl : Ascending l) : search l b = some n ↔ (b, n) ∈ l := by
  simp only [search, Option.bind_eq_some_iff, Prod.exists]
  constructor
  · rintro ⟨c, m, hcm, h⟩
    split_ifs at h with hcb
    obtain rfl := Option.some.inj h
    exact hcb ▸ List.mem_of_getElem? hcm
  · intro hmem
    obtain ⟨i, hi⟩ := List.mem_iff_getElem?.mp hmem
    -- the place is not after the child, and what stands before the child is below it
    have hle : place l b ≤ i := Nat.le_of_not_lt fun hlt => UInt8.lt_irrefl b ((hl.lt_place_iff hi).mp hlt)
    obtain ⟨q, hq⟩ : ∃ q, l[place l b]? = some q :=
      ⟨_, List.getElem?_eq_getElem (Nat.lt_of_le_of_lt hle (List.getElem?_eq_some_iff.mp hi).1)⟩
    have hge : i ≤ place l b := Nat.le_of_not_lt fun hlt =>
      Nat.lt_irrefl _ ((hl.lt_place_iff hq).mpr (hl.lt hlt hq hi))
    obtain rfl := Nat.le_antisymm hle hge
    exact ⟨b, n, hi, if_pos rfl⟩

theorem mem_insertChild : p ∈ insertChild b n l ↔ p = (b, n) ∨ p ∈ l := by
  have hsplit : p ∈ l ↔ p ∈ l.take (place l b) ∨ p ∈ l.drop (place l b) := by
    rw [← List.mem_append, List.take_append_drop]
  rw [insertChild, List.mem_append, List.mem_cons, hsplit, or_left_comm]

theorem Ascending.insertChild (hl : Ascending l) (hb : search l b = none) :
    Ascending (insertChild b n l) := by
  have hbelow : ∀ p ∈ l.take (place l b), p.1 < b := by
    intro p hp
    obtain ⟨i, hi⟩ := List.mem_iff_getElem?.mp hp
    rw [List.getElem?_take] at hi
    split_ifs at hi with hlt
    exact (hl.lt_place_iff hi).mp hlt
  have habove : ∀ p ∈ l.drop (place l b), b < p.1 := by
    rintro ⟨c, m⟩ hp
    obtain ⟨i, hi⟩ := List.mem_iff_getElem?.mp hp
    rw [List.getElem?_drop] at hi
    have hnot : ¬ c < b := fun hlt => absurd ((hl.lt_place_iff hi).mpr hlt) (by omega)
    refine UInt8.lt_of_le_of_ne (UInt8.not_lt.mp hnot) ?_
    rintro rfl
    rw [hl.search_eq_some_iff.mpr (List.mem_of_mem_drop hp)] at hb
    cases hb
  have hsplit : Ascending (l.take (place l b) ++ l.drop (place l b)) := by rwa [List.take_append_drop]
  obtain ⟨htake, hdrop, hcross⟩ := List.pairwise_append.mp hsplit
  refine List.pairwise_append.mpr ⟨htake, List.pairwise_cons.mpr ⟨habove, hdrop⟩, fun p hp q hq => ?_⟩
  rcases List.mem_cons.mp hq with rfl | hq
  · exact hbelow p hp
  · exact hcross p hp q hq

/-- What is found afterwards is the new child, and what was found before. -/
theorem Ascending.search_insertChild (hl : Ascending l) (hb : search l b = none) :
    search (Trie.insertChild b n l) c = if c = b then some n else search l c := by
  ext m
  rw [(hl.insertChild hb).search_eq_some_iff, mem_insertChild, Prod.mk.injEq]
  split_ifs with hcb
  · subst hcb
    have hnot : (c, m) ∉ l := fun h => by simp [hl.search_eq_some_iff.mpr h] at hb
    simp [hnot, eq_comm]
  · simp [hcb, hl.search_eq_some_iff]

end ConstrainedDecoding.Trie
