import ConstrainedDecoding.Proofs.Vocabulary.Trie
import Mathlib.Data.Set.Card

/-! The nodes of a trie are the prefixes of the byte strings that were put in, each of them once, whatever
the order and however often. -/
namespace ConstrainedDecoding.Trie

variable {t : Trie} {inserted : List (TokenId × List UInt8)}

theorem WellFormed.ncard_paths (h : t.WellFormed) : {bs | (t.find? bs).isSome}.ncard = t.size := by
  have hinj : Set.InjOn (fun bs => (t.find? bs).getD root) {bs | (t.find? bs).isSome} := by
    intro bs hbs cs hcs heq
    obtain ⟨n, hn⟩ := Option.isSome_iff_exists.mp hbs
    obtain ⟨m, hm⟩ := Option.isSome_iff_exists.mp hcs
    obtain rfl : n = m := by simpa [hn, hm] using heq
    exact h.injective hn hm
  have himage : (fun bs => (t.find? bs).getD root) '' {bs | (t.find? bs).isSome} =
      (Finset.range t.size : Set ℕ) := by
    ext n
    rw [Finset.mem_coe, Finset.mem_range]
    constructor
    · rintro ⟨bs, hbs, rfl⟩
      obtain ⟨n, hn⟩ := Option.isSome_iff_exists.mp hbs
      simpa [hn] using (h.length_le hn).2
    · intro hn
      obtain ⟨bs, hbs⟩ := h.found n hn
      exact ⟨bs, Option.isSome_of_eq_some hbs, by simp [hbs]⟩
  rw [← hinj.ncard_image, himage, Set.ncard_coe_finset, Finset.card_range]

/-- There is a node for every prefix but the empty one, which leads to the root. -/
theorem Represents.size_eq (h : t.Represents inserted) :
    t.size = {bs | bs ≠ [] ∧ ∃ p ∈ inserted, bs <+: p.2}.ncard + 1 := by
  have hpaths : {bs | (t.find? bs).isSome} =
      {[]} ∪ {bs | bs ≠ [] ∧ ∃ p ∈ inserted, bs <+: p.2} := by
    ext bs
    simp only [Set.mem_union, Set.mem_ofPred_eq, Set.mem_singleton_iff, h.isSome_iff]
    tauto
  have hfin : {bs | (t.find? bs).isSome}.Finite :=
    Set.finite_of_ncard_pos (h.wellFormed.ncard_paths ▸ h.wellFormed.nonempty)
  have hrest := hfin.subset (hpaths ▸ Set.subset_union_right)
  rw [← h.wellFormed.ncard_paths, hpaths, Set.singleton_union,
    Set.ncard_insert_of_notMem (by simp) hrest]

def ofList (inserted : List (TokenId × List UInt8)) : Trie :=
  inserted.foldl (fun t (id, bytes) => t.insert bytes id) empty

/-- What a trie holds after any insertions. A byte string leads to a node if it begins one that was put in,
and no other leads there; the node has the tokens put in with it, in their order. The children of a node go up
by their bytes and come after it. There are as many nodes as there are prefixes. -/
theorem node_for_each_prefix (inserted : List (TokenId × List UInt8)) :
    let t := ofList inserted
    (∀ bs, (t.find? bs).isSome ↔ bs = [] ∨ ∃ p ∈ inserted, bs <+: p.2) ∧
      (∀ bs cs n, t.find? bs = some n → t.find? cs = some n → bs = cs) ∧
      (∀ bs n, t.find? bs = some n → t.tokens n = (inserted.filter (·.2 == bs)).map (·.1)) ∧
      (∀ n, (t.children n).Pairwise (·.1 < ·.1) ∧ ∀ p ∈ t.children n, n < p.2 ∧ p.2 < t.size) ∧
      t.size = {bs | bs ≠ [] ∧ ∃ p ∈ inserted, bs <+: p.2}.ncard + 1 := by
  intro t
  have hrep : t.Represents inserted := represents_foldl inserted
  have hwf := hrep.wellFormed
  exact ⟨hrep.isSome_iff, fun _ _ _ => hwf.injective, fun _ _ => hrep.tokens,
    fun n => ⟨hwf.ascending n, fun _ hp => hwf.child (hwf.mem_children.mp hp)⟩, hrep.size_eq⟩

/-- Two tokens with the same bytes, one that goes on from them, and one that they end with. -/
def overlapping : List (TokenId × List UInt8) :=
  [(0, [97, 98]), (1, [97, 98, 99]), (2, [98]), (3, [97, 98])]

theorem node_for_each_prefix_overlapping :
    (ofList overlapping).find? [97, 98] = some 2 ∧ (ofList overlapping).tokens 2 = [0, 3] ∧
      (ofList overlapping).find? [97, 99] = none ∧
        {bs | bs ≠ [] ∧ ∃ p ∈ overlapping, bs <+: p.2}.ncard = 4 := by
  obtain ⟨hsome, -, htokens, -, hsize⟩ := node_for_each_prefix overlapping
  have hfind : (ofList overlapping).find? [97, 98] = some 2 := by cbv
  have hfive : (ofList overlapping).size = 5 := by cbv
  refine ⟨hfind, htokens _ _ hfind, Option.not_isSome_iff_eq_none.mp fun h => ?_, ?_⟩
  · simpa [overlapping] using (hsome _).mp h
  · exact Nat.succ.inj (hsize.symm.trans hfive)

end ConstrainedDecoding.Trie
