import ConstrainedDecoding.Proofs.Vocabulary.Constructors
import Mathlib.Data.List.Induction
import Mathlib.Order.Basic

/-! Vocabularies from pairs of ids and bytes. Pairs fill the slots of their ids in any order, and what is made
of them depends on the slots alone. -/
namespace ConstrainedDecoding.Vocabulary

variable {slots : Slots} {pairs pairs' : List (TokenId × List UInt8)} {t : TokenId}
  {bytes : List UInt8} {eos : TokenId}

/-- The ids of pairs are the numbers below that of the pairs, each of them once. -/
def Numbered (pairs : List (TokenId × List UInt8)) : Prop :=
  (pairs.map (·.1)).Perm (List.range pairs.length)

instance : Decidable (Numbered pairs) := inferInstanceAs (Decidable (List.Perm _ _))

theorem Numbered.mem_iff (h : Numbered pairs) : t ∈ pairs.map (·.1) ↔ t < pairs.length :=
  (List.Perm.mem_iff h).trans List.mem_range

theorem Numbered.length_le (h : Numbered pairs) (hids : ∀ p ∈ pairs, p.1 < idCount) :
    pairs.length ≤ idCount := by
  by_contra hlt
  obtain ⟨p, hp, heq⟩ := List.mem_map.mp (h.mem_iff.mpr (not_le.mp hlt))
  exact (hids p hp).ne heq

def Listed (pairs : List (TokenId × List UInt8)) (tokens : Array (List UInt8)) : Prop :=
  tokens.size = pairs.length ∧ ∀ p ∈ pairs, tokens[p.1]? = some p.2

theorem Listed.eq {tokens tokens' : Array (List UInt8)} (hpairs : Numbered pairs)
    (h : Listed pairs tokens) (h' : Listed pairs tokens') : tokens = tokens' := by
  refine Array.ext_getElem? fun t => ?_
  rcases Nat.lt_or_ge t pairs.length with ht | ht
  · obtain ⟨p, hp, rfl⟩ := List.mem_map.mp (hpairs.mem_iff.mpr ht)
    rw [h.2 p hp, h'.2 p hp]
  · rw [Array.getElem?_eq_none (h.1 ▸ ht), Array.getElem?_eq_none (h'.1 ▸ ht)]

/-- Slots have the bytes of some pairs, and go no further than the largest id. -/
structure Holds (slots : Slots) (pairs : List (TokenId × List UInt8)) : Prop where
  nodup : (pairs.map (·.1)).Nodup
  mem_iff : ∀ {t bytes}, slots.getD t none = some bytes ↔ (t, bytes) ∈ pairs
  exists_le : ∀ {t}, t < slots.size → ∃ p ∈ pairs, t ≤ p.1

private theorem getD_append_replicate (slots : Slots) (n k : ℕ) :
    (slots ++ Array.replicate n none).getD k none = slots.getD k none := by
  simp only [Array.getD_eq_getD_getElem?, Array.getElem?_append, Array.getElem?_replicate]
  split_ifs with hk hlt
  · rfl
  · rw [Array.getElem?_eq_none (not_lt.mp hk)]
    rfl
  · rw [Array.getElem?_eq_none (not_lt.mp hk)]

theorem fill_of_none (h : slots.getD t none = none) (bytes : List UInt8) :
    ∃ slots' : Slots, fill slots t bytes = .ok slots' ∧ slots'.size = max slots.size (t + 1) ∧
      ∀ k, slots'.getD k none = if k = t then some bytes else slots.getD k none := by
  refine ⟨_, by rw [fill, getD_append_replicate, if_neg (by simp [h])], ?_, fun k => ?_⟩
  · rw [Array.size_setIfInBounds, Array.size_append, Array.size_replicate]
    omega
  · split_ifs with hk
    · subst hk
      rw [Array.getD_eq_getD_getElem?, Array.getElem?_setIfInBounds_self_of_lt, Option.getD_some]
      rw [Array.size_append, Array.size_replicate]
      omega
    · rw [Array.getD_eq_getD_getElem?, Array.getElem?_setIfInBounds_ne (Ne.symm hk),
        ← Array.getD_eq_getD_getElem?, getD_append_replicate]

namespace Holds

theorem nil : Holds #[] [] := ⟨by simp, by simp, by simp⟩

theorem isSome_iff (h : Holds slots pairs) : (slots.getD t none).isSome ↔ t ∈ pairs.map (·.1) := by
  rw [Option.isSome_iff_exists, List.mem_map]
  constructor
  · rintro ⟨bytes, hbytes⟩
    exact ⟨_, h.mem_iff.mp hbytes, rfl⟩
  · rintro ⟨p, hp, rfl⟩
    exact ⟨p.2, h.mem_iff.mpr hp⟩

theorem lt_size (h : Holds slots pairs) (ht : t ∈ pairs.map (·.1)) : t < slots.size := by
  by_contra hle
  have hsome := h.isSome_iff.mpr ht
  rw [Array.getD_eq_getD_getElem?, Array.getElem?_eq_none (not_lt.mp hle)] at hsome
  cases hsome

theorem fill (h : Holds slots pairs) (ht : t ∉ pairs.map (·.1)) :
    ∃ slots', Vocabulary.fill slots t bytes = .ok slots' ∧ Holds slots' (pairs ++ [(t, bytes)]) := by
  have hnone : slots.getD t none = none := by
    rwa [← Option.not_isSome_iff_eq_none, h.isSome_iff]
  obtain ⟨slots', hfill, hsize, hget⟩ := fill_of_none hnone bytes
  refine ⟨slots', hfill, ?_, fun {k bs} => ?_, fun {k} hk => ?_⟩
  · rw [List.map_append, List.map_singleton, ← List.concat_eq_append]
    exact h.nodup.concat ht
  · rw [hget, List.mem_append, List.mem_singleton, Prod.mk.injEq]
    split_ifs with hk
    · subst hk
      have hnot : (k, bs) ∉ pairs := fun hp => ht (List.mem_map_of_mem hp)
      simp [hnot, eq_comm]
    · simp only [hk, false_and, or_false]
      exact h.mem_iff
  · rcases Nat.lt_or_ge k slots.size with hlt | hge
    · obtain ⟨p, hp, hle⟩ := h.exists_le hlt
      exact ⟨p, List.mem_append_left _ hp, hle⟩
    · exact ⟨(t, bytes), by simp, by omega⟩

theorem lt_size_iff (h : Holds slots pairs) (hpairs : Numbered pairs) :
    t < slots.size ↔ t ∈ pairs.map (·.1) := by
  refine ⟨fun ht => ?_, h.lt_size⟩
  obtain ⟨p, hp, hle⟩ := h.exists_le ht
  exact hpairs.mem_iff.mpr (hle.trans_lt (hpairs.mem_iff.mp (List.mem_map_of_mem hp)))

/-- No slot is empty if the ids leave no gap. -/
theorem findIdx?_eq_none_iff (h : Holds slots pairs) :
    slots.findIdx? Option.isNone = none ↔ Numbered pairs := by
  have hfull : slots.findIdx? Option.isNone = none ↔ ∀ t < slots.size, t ∈ pairs.map (·.1) := by
    rw [Array.findIdx?_eq_none_iff, Array.forall_mem_iff_forall_getElem]
    refine forall₂_congr fun t ht => ?_
    rw [← h.isSome_iff, Array.getD_eq_getD_getElem?, Array.getElem?_eq_getElem ht, Option.getD_some,
      Option.isNone_eq_false_iff]
  rw [hfull]
  constructor
  · intro hall
    have hperm : (pairs.map (·.1)).Perm (List.range slots.size) :=
      (List.perm_ext_iff_of_nodup h.nodup List.nodup_range).mpr fun t => by
        rw [List.mem_range]
        exact ⟨h.lt_size, hall t⟩
    have hlength : pairs.length = slots.size := by simpa using hperm.length_eq
    rwa [Numbered, hlength]
  · exact fun hpairs t ht => (h.lt_size_iff hpairs).mp ht

end Holds

end ConstrainedDecoding.Vocabulary
