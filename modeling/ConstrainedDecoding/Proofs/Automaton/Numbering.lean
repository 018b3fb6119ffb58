import ConstrainedDecoding.Error
import ConstrainedDecoding.Proofs.Except
import Mathlib.Data.Finset.Card
import Mathlib.Data.Set.Card
import Mathlib.Logic.Relation

/-! A search that numbers the nodes of a graph in the order in which it finds them. It fails only if more nodes
can be reached than there is room for, its answer does not depend on how much room there is otherwise, and not
on what the nodes are. -/
namespace ConstrainedDecoding.Automaton

namespace Numbering

variable {σ τ : Type} {limit limit' current fuel fuel' : ℕ} {targets : σ → List (Option σ)}
  {found found' : List σ} {start x y : σ} {xs : List (Option σ)}

def Reaches (targets : σ → List (Option σ)) (start x : σ) : Prop :=
  Relation.ReflTransGen (fun x y => some y ∈ targets x) start x

/-- What the nodes before number `current` lead to has been found. -/
def Settled (targets : σ → List (Option σ)) (current : ℕ) (found : List σ) : Prop :=
  ∀ x ∈ found.take current, ∀ y, some y ∈ targets x → y ∈ found

theorem Settled.next (h : Settled targets current found) (hx : found[current]? = some x)
    (hpre : found <+: found') (hmem : ∀ y, some y ∈ targets x → y ∈ found') :
    Settled targets (current + 1) found' := by
  have hlt := (List.getElem?_eq_some_iff.mp hx).1
  have htake : found'.take (current + 1) = found.take current ++ [x] := by
    obtain ⟨new, rfl⟩ := hpre
    rw [List.take_append_of_le_length hlt, List.take_add_one, hx, Option.toList_some]
  intro z hz y hy
  rw [htake] at hz
  rcases List.mem_append.mp hz with hz | hz
  · exact hpre.subset (h z hz y hy)
  · exact hmem y (List.mem_singleton.mp hz ▸ hy)

theorem Settled.closed (h : Settled targets current found) (hend : found.length ≤ current) :
    ∀ x ∈ found, ∀ y, some y ∈ targets x → y ∈ found := by
  rwa [Settled, List.take_of_length_le hend] at h

variable [DecidableEq σ] [DecidableEq τ]

/-- The number of a node, which is the next one if the node is new. A dead end has no number. -/
def number (limit : ℕ) (found : List σ) : Option σ → Except Error (Option ℕ × List σ)
  | none => .ok (none, found)
  | some x =>
    match found.findIdx? (· = x) with
    | some i => .ok (some i, found)
    | none =>
      if limit ≤ found.length then .error (.tooComplex .dfaStates limit)
      else .ok (some found.length, found ++ [x])

def numberAll (limit : ℕ) (found : List σ) :
    List (Option σ) → Except Error (List (Option ℕ) × List σ)
  | [] => .ok ([], found)
  | x :: xs => do
    let (t, found) ← number limit found x
    let (ts, found) ← numberAll limit found xs
    return (t :: ts, found)

/-- The rows of the nodes from number `current` on; `fuel` bounds how many there can be. -/
def search (limit : ℕ) (targets : σ → List (Option σ)) :
    (fuel current : ℕ) → List σ → Except Error (List σ × List (List (Option ℕ)))
  | 0, _, found => .ok (found, [])
  | fuel + 1, current, found =>
    match found[current]? with
    | none => .ok (found, [])
    | some x => do
      let (row, found) ← numberAll limit found (targets x)
      let (found, rows) ← search limit targets fuel (current + 1) found
      return (found, row :: rows)

theorem search_of_length_le (h : found.length ≤ current) :
    search limit targets fuel current found = .ok (found, []) := by
  cases fuel <;> simp [search, List.getElem?_eq_none h]

theorem search_succ (hx : found[current]? = some x) :
    search limit targets (fuel + 1) current found = do
      let (row, found) ← numberAll limit found (targets x)
      let (found, rows) ← search limit targets fuel (current + 1) found
      return (found, row :: rows) := by
  rw [search, hx]

/-- A dead end has no number, a node that was found has its own, and a new node gets the next one if there is
room for it. -/
theorem number_cases (found : List σ) (x : Option σ) :
    (x = none ∧ ∀ limit, number limit found x = .ok (none, found)) ∨
    (∃ y i, x = some y ∧ found[i]? = some y ∧ ∀ limit, number limit found x = .ok (some i, found)) ∨
    ∃ y, x = some y ∧ y ∉ found ∧ ∀ limit, number limit found x =
      if limit ≤ found.length then .error (.tooComplex .dfaStates limit)
      else .ok (some found.length, found ++ [y]) := by
  cases x with
  | none => exact .inl ⟨rfl, fun _ => rfl⟩
  | some y =>
    cases hi : found.findIdx? (· = y) with
    | some i =>
      obtain ⟨hlt, hget, -⟩ := List.findIdx?_eq_some_iff_getElem.mp hi
      refine .inr (.inl ⟨y, i, rfl, ?_, fun limit => by simp [number, hi]⟩)
      rw [List.getElem?_eq_getElem hlt, of_decide_eq_true hget]
    | none =>
      refine .inr (.inr ⟨y, rfl, fun hy => ?_, fun limit => by simp [number, hi]⟩)
      simpa using List.findIdx?_eq_none_iff.mp hi y hy

structure Sighted (limit : ℕ) (targets : σ → List (Option σ)) (start : σ) (found : List σ) : Prop where
  nodup : found.Nodup
  first : start ∈ found
  reached : ∀ x ∈ found, Reaches targets start x
  length : found.length ≤ max limit 1

theorem number_sighted {x : Option σ} {t : Option ℕ} (h : Sighted limit targets start found)
    (hx : ∀ y, x = some y → Reaches targets start y) (hn : number limit found x = .ok (t, found')) :
    Sighted limit targets start found' ∧ found <+: found' ∧ ∀ y, x = some y → y ∈ found' := by
  rcases number_cases found x with ⟨rfl, hc⟩ | ⟨y, i, rfl, hi, hc⟩ | ⟨y, rfl, hy, hc⟩
  · rw [hc] at hn
    cases hn
    exact ⟨h, List.prefix_refl _, nofun⟩
  · rw [hc] at hn
    cases hn
    exact ⟨h, List.prefix_refl _, fun z hz => Option.some.inj hz ▸ List.mem_of_getElem? hi⟩
  · rw [hc] at hn
    split at hn
    · cases hn
    · cases hn
      refine ⟨⟨?_, List.mem_append_left _ h.first, fun z hz => ?_, ?_⟩, List.prefix_append _ _,
        fun z hz => ?_⟩
      · exact h.nodup.append (List.nodup_singleton y) (by simpa using hy)
      · rcases List.mem_append.mp hz with hz | hz
        · exact h.reached z hz
        · exact List.mem_singleton.mp hz ▸ hx y rfl
      · rw [List.length_append, List.length_singleton]
        omega
      · exact Option.some.inj hz ▸ List.mem_append_right _ (List.mem_singleton_self y)

theorem numberAll_sighted {ts : List (Option ℕ)} (h : Sighted limit targets start found)
    (hxs : ∀ y, some y ∈ xs → Reaches targets start y) (hn : numberAll limit found xs = .ok (ts, found')) :
    Sighted limit targets start found' ∧ found <+: found' ∧ ∀ y, some y ∈ xs → y ∈ found' := by
  induction xs generalizing found ts with
  | nil =>
    cases hn
    exact ⟨h, List.prefix_refl _, by simp⟩
  | cons x xs ih =>
    simp only [numberAll, bind_eq_ok_iff, pure_eq_ok_iff, Prod.exists, Prod.mk.injEq] at hn
    obtain ⟨t, found₁, hn, ts', found₂, hns, rfl, rfl⟩ := hn
    obtain ⟨h₁, hpre₁, hmem₁⟩ := number_sighted h (fun y hy => hxs y (hy ▸ List.mem_cons_self)) hn
    obtain ⟨h₂, hpre₂, hmem₂⟩ := ih h₁ (fun y hy => hxs y (List.mem_cons_of_mem _ hy)) hns
    refine ⟨h₂, hpre₁.trans hpre₂, fun y hy => ?_⟩
    rcases List.mem_cons.mp hy with hy | hy
    · exact hpre₂.subset (hmem₁ y hy.symm)
    · exact hmem₂ y hy

theorem search_sighted {rows : List (List (Option ℕ))} (h : Sighted limit targets start found)
    (hs : Settled targets current found) (hfuel : fuel + current = max limit 1)
    (hr : search limit targets fuel current found = .ok (found', rows)) :
    Sighted limit targets start found' ∧ ∀ x ∈ found', ∀ y, some y ∈ targets x → y ∈ found' := by
  induction fuel generalizing current found rows with
  | zero =>
    cases hr
    exact ⟨h, hs.closed (by have := h.length; omega)⟩
  | succ fuel ih =>
    cases hx : found[current]? with
    | none =>
      have hend := List.getElem?_eq_none_iff.mp hx
      rw [search_of_length_le hend] at hr
      cases hr
      exact ⟨h, hs.closed hend⟩
    | some x =>
      simp only [search_succ hx, bind_eq_ok_iff, pure_eq_ok_iff, Prod.exists, Prod.mk.injEq] at hr
      obtain ⟨row, found₁, hn, found₂, rows', hr, rfl, rfl⟩ := hr
      have hreach := h.reached x (List.mem_of_getElem? hx)
      obtain ⟨h₁, hpre, hmem⟩ := numberAll_sighted h (fun y hy => hreach.tail hy) hn
      exact ih h₁ (hs.next hx hpre hmem) (by omega) hr

theorem Sighted.ncard_eq (h : Sighted limit targets start found)
    (hclosed : ∀ x ∈ found, ∀ y, some y ∈ targets x → y ∈ found) :
    {x | Reaches targets start x}.ncard = found.length := by
  have hmem {x : σ} (hx : Reaches targets start x) : x ∈ found := by
    induction hx with
    | refl => exact h.first
    | tail _ hy ih => exact hclosed _ ih _ hy
  have heq : {x | Reaches targets start x} = found.toFinset := by
    ext x
    simpa using ⟨hmem, h.reached x⟩
  rw [heq, Set.ncard_coe_finset, List.toFinset_card_of_nodup h.nodup]

/-- There was no room for another node, and more nodes than there is room for can be reached. -/
def Exceeds (limit : ℕ) (targets : σ → List (Option σ)) (start : σ) (e : Error) : Prop :=
  e = .tooComplex .dfaStates limit ∧ max limit 1 < {x | Reaches targets start x}.ncard

section Failure

variable (hfin : {x | Reaches targets start x}.Finite)
include hfin

/-- A new node is one more than those that were found. -/
theorem Sighted.lt_ncard (h : Sighted limit targets start found) (hy : y ∉ found)
    (hreach : Reaches targets start y) : found.length < {x | Reaches targets start x}.ncard := by
  have hsub : ((y :: found).toFinset : Set σ) ⊆ {x | Reaches targets start x} := by
    intro z hz
    rcases List.mem_cons.mp (List.mem_toFinset.mp hz) with rfl | hz
    · exact hreach
    · exact h.reached z hz
  have hle := Set.ncard_le_ncard hsub hfin
  rwa [Set.ncard_coe_finset, List.toFinset_card_of_nodup (List.nodup_cons.mpr ⟨hy, h.nodup⟩)] at hle

theorem number_exceeds {x : Option σ} (h : Sighted limit targets start found)
    (hx : ∀ y, x = some y → Reaches targets start y) :
    FailsWith (Exceeds limit targets start) (number limit found x) := by
  rcases number_cases found x with ⟨-, hc⟩ | ⟨_, _, -, -, hc⟩ | ⟨y, rfl, hy, hc⟩
  · exact hc limit ▸ .ok
  · exact hc limit ▸ .ok
  · rw [hc]
    split
    · have hlt := h.lt_ncard hfin hy (hx y rfl)
      have hpos := List.length_pos_of_mem h.first
      exact .error ⟨rfl, by omega⟩
    · exact .ok

theorem numberAll_exceeds (h : Sighted limit targets start found)
    (hxs : ∀ y, some y ∈ xs → Reaches targets start y) :
    FailsWith (Exceeds limit targets start) (numberAll limit found xs) := by
  induction xs generalizing found with
  | nil => exact .ok
  | cons x xs ih =>
    have hx : ∀ y, x = some y → Reaches targets start y := fun y hy => hxs y (hy ▸ List.mem_cons_self)
    refine (number_exceeds hfin h hx).bind fun a ha => ?_
    exact (ih (number_sighted h hx ha).1 fun y hy => hxs y (List.mem_cons_of_mem _ hy)).bind fun _ _ => .ok

theorem search_exceeds (h : Sighted limit targets start found) :
    FailsWith (Exceeds limit targets start) (search limit targets fuel current found) := by
  induction fuel generalizing current found with
  | zero => exact .ok
  | succ fuel ih =>
    cases hx : found[current]? with
    | none => exact search_of_length_le (List.getElem?_eq_none_iff.mp hx) ▸ .ok
    | some x =>
      rw [search_succ hx]
      have hreach : ∀ y, some y ∈ targets x → Reaches targets start y :=
        fun y hy => (h.reached x (List.mem_of_getElem? hx)).tail hy
      refine (numberAll_exceeds hfin h hreach).bind fun a ha => ?_
      exact (ih (numberAll_sighted h hreach ha).1).bind fun _ _ => .ok

end Failure

omit [DecidableEq σ] in
theorem sighted_singleton : Sighted limit targets start [start] :=
  ⟨List.nodup_singleton start, List.mem_singleton_self start,
    fun _ hx => List.mem_singleton.mp hx ▸ Relation.ReflTransGen.refl, le_max_right limit 1⟩

/-- A search fails exactly if more nodes can be reached than there is room for. There is always room for the
start. -/
theorem search_eq_error_iff (hfin : {x | Reaches targets start x}.Finite) :
    search limit targets (max limit 1) 0 [start] = .error (.tooComplex .dfaStates limit) ↔
      max limit 1 < {x | Reaches targets start x}.ncard := by
  have hfirst : Sighted limit targets start [start] := sighted_singleton
  constructor
  · exact fun h => (search_exceeds hfin hfirst _ h).2
  · intro hlt
    cases hr : search limit targets (max limit 1) 0 [start] with
    | error e => rw [(search_exceeds hfin hfirst e hr).1]
    | ok r =>
      obtain ⟨h, hclosed⟩ := search_sighted hfirst (by simp [Settled]) (Nat.add_zero _) hr
      rw [h.ncard_eq hclosed] at hlt
      exact absurd h.length (not_le.mpr hlt)

theorem length_le_of_search {rows : List (List (Option ℕ))}
    (hr : search limit targets (max limit 1) 0 [start] = .ok (found, rows)) : found.length ≤ max limit 1 :=
  (search_sighted sighted_singleton (by simp [Settled]) (Nat.add_zero _) hr).1.length

section Limits

theorem number_inStep (hle : limit ≤ limit') (found : List σ) (x : Option σ) :
    InStep (· = .tooComplex .dfaStates limit) Eq (number limit found x) (number limit' found x) := by
  rcases number_cases found x with ⟨-, hc⟩ | ⟨_, _, -, -, hc⟩ | ⟨_, -, -, hc⟩
  · rw [hc, hc]
    exact .ok rfl
  · rw [hc, hc]
    exact .ok rfl
  · rw [hc, hc]
    split
    · exact .refused rfl
    · rw [if_neg (by omega)]
      exact .ok rfl

theorem numberAll_inStep (hle : limit ≤ limit') (found : List σ) (xs : List (Option σ)) :
    InStep (· = .tooComplex .dfaStates limit) Eq (numberAll limit found xs) (numberAll limit' found xs) := by
  induction xs generalizing found with
  | nil => exact .ok rfl
  | cons x xs ih =>
    refine (number_inStep hle found x).bind fun a _ _ hab => hab ▸ ?_
    exact (ih a.2).bind fun _ _ _ hcd => .ok (by rw [hcd])

/-- A search with more room and more fuel finds the same, unless the first one runs out of room. -/
theorem search_inStep (hle : limit ≤ limit') (h : Sighted limit targets start found)
    (hfuel : fuel + current = max limit 1) (hfuel' : fuel ≤ fuel') :
    InStep (· = .tooComplex .dfaStates limit) Eq (search limit targets fuel current found)
      (search limit' targets fuel' current found) := by
  induction fuel generalizing current found fuel' with
  | zero =>
    have hend : found.length ≤ current := by have := h.length; omega
    rw [search_of_length_le hend, search_of_length_le hend]
    exact .ok rfl
  | succ fuel ih =>
    cases hx : found[current]? with
    | none =>
      have hend := List.getElem?_eq_none_iff.mp hx
      rw [search_of_length_le hend, search_of_length_le hend]
      exact .ok rfl
    | some x =>
      obtain ⟨fuel', rfl⟩ := Nat.exists_eq_succ_of_ne_zero (Nat.ne_zero_of_lt hfuel')
      rw [search_succ hx, search_succ hx]
      refine (numberAll_inStep hle found (targets x)).bind fun a _ ha hab => hab ▸ ?_
      have hreach : ∀ y, some y ∈ targets x → Reaches targets start y :=
        fun y hy => (h.reached x (List.mem_of_getElem? hx)).tail hy
      have h' := (numberAll_sighted h hreach ha).1
      exact (ih h' (by omega) (Nat.le_of_succ_le_succ hfuel')).bind fun _ _ _ hcd => .ok (by rw [hcd])

end Limits

section Renaming

variable {f : σ → τ} (hf : f.Injective)
include hf

theorem number_map (limit : ℕ) (found : List σ) (x : Option σ) :
    InStep (fun _ => False) (fun a b => (a.1, a.2.map f) = b) (number limit found x)
      (number limit (found.map f) (x.map f)) := by
  cases x with
  | none => exact .ok rfl
  | some x =>
    have hidx : (found.map f).findIdx? (· = f x) = found.findIdx? (· = x) := by
      rw [List.findIdx?_map]
      simp [Function.comp_def, hf.eq_iff]
    simp only [number, Option.map_some, hidx, List.length_map]
    cases found.findIdx? (· = x) with
    | some i => exact .ok rfl
    | none =>
      dsimp only
      split
      · exact .error _
      · exact .ok (by simp)

theorem numberAll_map (limit : ℕ) (found : List σ) (xs : List (Option σ)) :
    InStep (fun _ => False) (fun a b => (a.1, a.2.map f) = b) (numberAll limit found xs)
      (numberAll limit (found.map f) (xs.map (Option.map f))) := by
  induction xs generalizing found with
  | nil => exact .ok rfl
  | cons x xs ih =>
    refine (number_map hf limit found x).bind fun a _ _ hab => hab ▸ ?_
    exact (ih a.2).bind fun _ _ _ hcd => .ok (by rw [← hcd])

/-- Under other names, a search finds the same nodes in the same order. -/
theorem search_map {targets' : τ → List (Option τ)}
    (htargets : ∀ x, targets' (f x) = (targets x).map (Option.map f)) (fuel current : ℕ) (found : List σ) :
    InStep (fun _ => False) (fun a b => (a.1.map f, a.2) = b) (search limit targets fuel current found)
      (search limit targets' fuel current (found.map f)) := by
  induction fuel generalizing current found with
  | zero => exact .ok rfl
  | succ fuel ih =>
    cases hx : found[current]? with
    | none =>
      have hend := List.getElem?_eq_none_iff.mp hx
      rw [search_of_length_le hend, search_of_length_le (by rwa [List.length_map])]
      exact .ok rfl
    | some x =>
      have hx' : (found.map f)[current]? = some (f x) := by rw [List.getElem?_map, hx, Option.map_some]
      rw [search_succ hx, search_succ hx', htargets]
      refine (numberAll_map hf limit found (targets x)).bind fun a _ _ hab => hab ▸ ?_
      exact (ih (current + 1) a.2).bind fun _ _ _ hcd => .ok (by rw [← hcd])

end Renaming

end Numbering

end ConstrainedDecoding.Automaton
