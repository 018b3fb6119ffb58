import ConstrainedDecoding.Proofs.Automaton.Thompson

/-! Laid out elsewhere, a plan has the same states under other numbers. -/
namespace ConstrainedDecoding.Automaton

def NfaState.rename (f : ℕ → ℕ) : NfaState → NfaState
  | .range lo hi next => .range lo hi (f next)
  | .epsilon next => .epsilon (f next)
  | .union alternatives => .union (alternatives.map f)
  | .anchor a next => .anchor a (f next)
  | .accept => .accept

/-- The numbers of `n` states from `base` on become greater by `k`. -/
def Relocates (f : ℕ → ℕ) (k base n : ℕ) : Prop := ∀ i < n, f (base + i) = base + k + i

namespace Relocates

variable {f : ℕ → ℕ} {k base n : ℕ}

theorem at_zero (h : Relocates f k base n) (hn : 0 < n) : f base = base + k := h 0 hn

/-- A part of what is relocated. -/
theorem part (h : Relocates f k base n) {i m : ℕ} (hm : i + m ≤ n) : Relocates f k (base + i) m := by
  intro j hj
  rw [Nat.add_assoc, h (i + j) (by omega)]
  omega

theorem mono (h : Relocates f k base n) {m : ℕ} (hm : m ≤ n) : Relocates f k base m :=
  fun i hi => h i (hi.trans_le hm)

end Relocates

namespace Plan

variable {f : ℕ → ℕ} {k : ℕ}

theorem chainSize_pos (s : ByteSequence) : 0 < chainSize s := by
  cases s <;> simp [chainSize]

mutual

theorem size_pos : ∀ p : Plan, 0 < p.size
  | .bytes [] => by simp [size]
  | .bytes [s] => by simpa [size] using chainSize_pos s
  | .bytes (s :: t :: ss) => by simp [size]
  | .anchor _ => by simp [size]
  | .append first second => by
    rw [size]
    have := size_pos first
    omega
  | .alternation _ => by simp [size]
  | .repetition _ _ _ => by
    simp only [size]
    omega

end

theorem chain_rename {base exit : ℕ} {s : ByteSequence} (h : Relocates f k base (chainSize s)) :
    chain (base + k) (f exit) s = (chain base exit s).map (NfaState.rename f) := by
  fun_induction chain base exit s with
  | case1 => rfl
  | case2 => rfl
  | case3 base r s hs ih =>
    have hpos : 0 < s.length := List.length_pos_iff.mpr hs
    have hsize : chainSize (r :: s) = 1 + chainSize s := by
      cases s with
      | nil => exact absurd rfl hs
      | cons => simp [chainSize, Nat.add_comm]
    rw [hsize] at h
    have hchain : chain (base + k) (f exit) (r :: s) =
        .range r.lo r.hi (base + k + 1) :: chain (base + k + 1) (f exit) s := by
      cases s with
      | nil => exact absurd rfl hs
      | cons => rfl
    have hnext : f (base + 1) = base + 1 + k := (h 1 (by have := chainSize_pos s; omega)).trans (by omega)
    rw [hchain, List.map_cons, NfaState.rename, hnext, Nat.add_right_comm, ih (h.part le_rfl)]

theorem starts_rename {base : ℕ} {ns : List ℕ} (hpos : ∀ n ∈ ns, 0 < n)
    (h : Relocates f k base (total ns)) : starts (base + k) ns = (starts base ns).map f := by
  induction ns generalizing base with
  | nil => rfl
  | cons n ns ih =>
    have hn := hpos n List.mem_cons_self
    rw [total_cons] at h
    rw [starts, starts, List.map_cons, h.at_zero (by omega), Nat.add_right_comm,
      ih (fun m hm => hpos m (List.mem_cons_of_mem _ hm)) (h.part le_rfl)]

theorem chains_rename {base exit : ℕ} {ss : List ByteSequence}
    (h : Relocates f k base (total (ss.map chainSize))) :
    chains (base + k) (f exit) ss = (chains base exit ss).map (NfaState.rename f) := by
  induction ss generalizing base with
  | nil => rfl
  | cons s ss ih =>
    rw [List.map_cons, total_cons] at h
    have hs : Relocates f k base (chainSize s) := h.part (i := 0) (by omega)
    rw [chains, chains, List.map_append, chain_rename hs, Nat.add_right_comm, ih (h.part le_rfl)]

theorem sizes_pos : ∀ parts : List Plan, ∀ n ∈ sizes parts, 0 < n
  | [], _, hn => by simp [sizes] at hn
  | part :: parts, n, hn => by
    rw [sizes] at hn
    rcases List.mem_cons.mp hn with rfl | hn
    · exact size_pos part
    · exact sizes_pos parts n hn

private theorem choice_rename {base exit : ℕ} (ns : List ℕ) (inner : ℕ → ℕ → List NfaState)
    (hpos : ∀ n ∈ ns, 0 < n) (h : Relocates f k base (total ns + 2))
    (hinner : ∀ {base exit : ℕ}, Relocates f k base (total ns) →
      inner (base + k) (f exit) = (inner base exit).map (NfaState.rename f)) :
    .union (starts (base + k + 2) ns) :: .epsilon (f exit) :: inner (base + k + 2) (base + k + 1) =
      (.union (starts (base + 2) ns) :: .epsilon exit :: inner (base + 2) (base + 1)).map
        (NfaState.rename f) := by
  have hrest : Relocates f k (base + 2) (total ns) := h.part (Nat.add_comm 2 _).le
  have hexit : base + k + 1 = f (base + 1) := (h 1 (by omega)).symm
  rw [hexit, Nat.add_right_comm, starts_rename hpos hrest, hinner hrest]
  rfl

section Repetition

variable {sub : Plan}
  (hsub : ∀ {base exit : ℕ}, Relocates f k base sub.size →
    sub.states (base + k) (f exit) = (sub.states base exit).map (NfaState.rename f))
include hsub

/-- The mandatory copies of a repetition go on one with the next, and the last of them with `after`. -/
private theorem copies_rename {base min after after' : ℕ} (h : Relocates f k base (1 + min * sub.size))
    (hafter : f after = after') :
    .epsilon (if 0 < min then base + k + 1 + 0 * sub.size else after') ::
        (List.range min).flatMap (fun i => sub.states (base + k + 1 + i * sub.size)
          (if i + 1 < min then base + k + 1 + (i + 1) * sub.size else after')) =
      (.epsilon (if 0 < min then base + 1 + 0 * sub.size else after) ::
        (List.range min).flatMap fun i => sub.states (base + 1 + i * sub.size)
          (if i + 1 < min then base + 1 + (i + 1) * sub.size else after)).map (NfaState.rename f) := by
  have hfit {i : ℕ} (hi : i < min) : i * sub.size + sub.size ≤ min * sub.size := by
    rw [← Nat.succ_mul]
    exact Nat.mul_le_mul_right _ hi
  have htarget (i : ℕ) : (if i < min then base + k + 1 + i * sub.size else after') =
      f (if i < min then base + 1 + i * sub.size else after) := by
    split
    · rename_i hi
      have := hfit hi
      have := size_pos sub
      have := h (1 + i * sub.size) (by omega)
      rw [← Nat.add_assoc, ← Nat.add_assoc] at this
      exact this.symm
    · exact hafter.symm
  rw [List.map_cons, List.map_flatMap, htarget]
  refine congrArg _ (List.flatMap_congr fun i hi => ?_)
  have hcopy : Relocates f k (base + 1 + i * sub.size) sub.size := by
    rw [Nat.add_assoc]
    exact h.part (by have := hfit (List.mem_range.mp hi); omega)
  rw [htarget, ← hsub hcopy, show base + k + 1 + i * sub.size = base + 1 + i * sub.size + k by omega]

private theorem loop_rename {rest exit : ℕ} (h : Relocates f k rest (sub.size + 2)) :
    .union [rest + k + 2, rest + k + 1] :: .epsilon (f exit) :: sub.states (rest + k + 2) (rest + k) =
      (.union [rest + 2, rest + 1] :: .epsilon exit :: sub.states (rest + 2) rest).map
        (NfaState.rename f) := by
  have hbody : Relocates f k (rest + 2) sub.size := h.part (Nat.add_comm 2 _).le
  have hback : rest + k = f rest := (h 0 (by omega)).symm
  have hpos := size_pos sub
  simp only [List.map_cons, List.map_nil, NfaState.rename, ← hsub hbody, ← hback, h 1 (by omega), h 2 (by omega)]
  rw [Nat.add_right_comm rest 2 k]

private theorem options_rename {rest exit count : ℕ} (h : Relocates f k rest (1 + count * (sub.size + 1))) :
    .epsilon (f exit) :: (List.range count).flatMap (fun j =>
        .union [rest + k, rest + k + 1 + j * (sub.size + 1) + 1] ::
          sub.states (rest + k + 1 + j * (sub.size + 1) + 1)
            (if j + 1 < count then rest + k + 1 + j * (sub.size + 1) + sub.size + 1 else rest + k)) =
      (.epsilon exit :: (List.range count).flatMap fun j =>
        .union [rest, rest + 1 + j * (sub.size + 1) + 1] ::
          sub.states (rest + 1 + j * (sub.size + 1) + 1)
            (if j + 1 < count then rest + 1 + j * (sub.size + 1) + sub.size + 1 else rest)).map
        (NfaState.rename f) := by
  have hpos := size_pos sub
  have hback : f rest = rest + k := h 0 (by omega)
  have hplace {j i : ℕ} (hj : j < count) (hi : i ≤ sub.size) :
      f (rest + 1 + j * (sub.size + 1) + i) = rest + k + 1 + j * (sub.size + 1) + i := by
    have hfit : j * (sub.size + 1) + (sub.size + 1) ≤ count * (sub.size + 1) := by
      rw [← Nat.succ_mul]
      exact Nat.mul_le_mul_right _ hj
    have := h (1 + j * (sub.size + 1) + i) (by omega)
    rw [show rest + (1 + j * (sub.size + 1) + i) = rest + 1 + j * (sub.size + 1) + i by omega] at this
    omega
  rw [List.map_cons, List.map_flatMap, NfaState.rename]
  refine congrArg _ (List.flatMap_congr fun j hj => ?_)
  have hj := List.mem_range.mp hj
  have hnext : (if j + 1 < count then rest + k + 1 + j * (sub.size + 1) + sub.size + 1 else rest + k) =
      f (if j + 1 < count then rest + 1 + j * (sub.size + 1) + sub.size + 1 else rest) := by
    split
    · rename_i hj'
      have hlast := hplace hj' (Nat.zero_le _)
      rw [show rest + 1 + (j + 1) * (sub.size + 1) + 0 =
        rest + 1 + j * (sub.size + 1) + sub.size + 1 by ring] at hlast
      rw [hlast]
      ring
    · exact hback.symm
  have hcopy : Relocates f k (rest + 1 + j * (sub.size + 1) + 1) sub.size := by
    intro i hi
    rw [Nat.add_assoc, hplace hj (by omega)]
    omega
  rw [hnext, List.map_cons, ← hsub hcopy, NfaState.rename, List.map_cons, List.map_cons, hback, hplace hj hpos,
    List.map_nil, show rest + k + 1 + j * (sub.size + 1) + 1 = rest + 1 + j * (sub.size + 1) + 1 + k by omega]

end Repetition

mutual

/-- The states of a plan that is laid out `k` places further on. -/
theorem states_rename : ∀ (p : Plan) {base exit : ℕ}, Relocates f k base p.size →
    p.states (base + k) (f exit) = (p.states base exit).map (NfaState.rename f)
  | .bytes [], _, _, h => choice_rename [] (fun _ _ => []) (by simp) h fun _ => rfl
  | .bytes [s], base, exit, h => by
    rw [states, states, chain_rename (by simpa [size] using h)]
  | .bytes (s :: t :: ss), _, _, h =>
    choice_rename _ (fun base exit => chains base exit (s :: t :: ss))
      (List.forall_mem_map.mpr fun s _ => chainSize_pos s) h chains_rename
  | .anchor _, _, _, _ => rfl
  | .append first second, base, exit, h => by
    rw [size] at h
    have hmiddle : base + k + first.size = f (base + first.size) := by
      have := size_pos second
      exact (h first.size (by omega)).symm
    have hplace : base + k + first.size = base + first.size + k := Nat.add_right_comm _ _ _
    rw [states, states, List.map_append, ← states_rename first (h.mono (by omega)), ← hmiddle,
      ← states_rename second (h.part le_rfl), hplace]
  | .alternation parts, _, _, h =>
    choice_rename _ (fun base exit => branches base exit parts) (sizes_pos parts) h
      (branches_rename parts)
  | .repetition sub min none, base, exit, h => by
    simp only [size] at h
    have hrest : Relocates f k (base + 1 + min * sub.size) (sub.size + 2) := by
      rw [Nat.add_assoc]
      exact h.part le_rfl
    have hplace : base + k + 1 + min * sub.size = base + 1 + min * sub.size + k := by omega
    simp only [states]
    rw [List.map_append, ← copies_rename (states_rename sub) (h.mono (by omega)) rfl,
      ← loop_rename (states_rename sub) hrest, hplace, hrest.at_zero (by omega)]
  | .repetition sub min (some m), base, exit, h => by
    simp only [size] at h
    by_cases hlt : min < m
    · rw [if_pos hlt] at h
      have hrest : Relocates f k (base + 1 + min * sub.size) (1 + (m - min) * (sub.size + 1)) := by
        rw [Nat.add_assoc]
        exact h.part (by omega)
      have hplace : base + k + 1 + min * sub.size = base + 1 + min * sub.size + k := by omega
      have hafter : f (base + 1 + min * sub.size + 1) = base + 1 + min * sub.size + k + 1 :=
        hrest 1 (by
          have : 0 < (m - min) * (sub.size + 1) := Nat.mul_pos (Nat.sub_pos_of_lt hlt) (Nat.succ_pos _)
          omega)
      simp only [states, if_pos hlt]
      rw [List.map_append, ← copies_rename (states_rename sub) (h.mono (by omega)) hafter,
        ← options_rename (states_rename sub) hrest, hplace]
    · simp only [states, if_neg hlt, List.append_nil]
      exact copies_rename (states_rename sub) (h.mono (by omega)) rfl

theorem branches_rename : ∀ (parts : List Plan) {base exit : ℕ}, Relocates f k base (total (sizes parts)) →
    branches (base + k) (f exit) parts = (branches base exit parts).map (NfaState.rename f)
  | [], _, _, _ => rfl
  | part :: parts, base, exit, h => by
    rw [sizes, total_cons] at h
    have hpart : Relocates f k base part.size := h.part (i := 0) (by omega)
    rw [branches, branches, List.map_append, states_rename part hpart, Nat.add_right_comm,
      branches_rename parts (h.part le_rfl)]

end

end Plan
end ConstrainedDecoding.Automaton
