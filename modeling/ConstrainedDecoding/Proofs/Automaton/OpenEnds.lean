import ConstrainedDecoding.Automaton.Builder
import Mathlib.Order.Nat

/-! Open ends. A fragment is left through exactly one of its states, and when that state is patched the fragment
is the one that would have been laid out for the target. Patches are kept account of on the way: a state
without its target was not patched, and a state with it was patched once.
-/
namespace ConstrainedDecoding

theorem modify_append_of_lt {α : Type} {f : α → α} {l₁ l₂ : List α} {i : ℕ} (h : i < l₁.length) :
    (l₁ ++ l₂).modify i f = l₁.modify i f ++ l₂ := by
  induction l₁ generalizing i with
  | nil => simp at h
  | cons a l₁ ih =>
    cases i with
    | zero => rfl
    | succ i => simp [ih (Nat.lt_of_succ_lt_succ h)]

theorem modify_append_add {α : Type} {f : α → α} (l₁ l₂ : List α) (i : ℕ) :
    (l₁ ++ l₂).modify (l₁.length + i) f = l₁ ++ l₂.modify i f := by
  induction l₁ with
  | nil => simp
  | cons a l₁ ih => simpa [Nat.succ_add] using ih

namespace Automaton

namespace NfaState

variable {q : NfaState} {t : StateId}

/-- The target of a state that has one and cannot have more. -/
def target? : NfaState → Option StateId
  | .range _ _ t => some t
  | .epsilon t => some t
  | .anchor _ t => some t
  | .union _ => none
  | .accept => none

/-- A state whose only target, if it can have one only, is not known yet. -/
def Patchable (q : NfaState) : Prop := ∀ t ∈ q.target?, t = unset

theorem target?_patch : (q.patch t).target? = q.target?.map fun _ => t := by
  cases q <;> rfl

theorem patchable_of_target? (h : q.target? = some unset) : q.Patchable := by
  intro t ht
  exact Option.some.inj (ht.symm.trans h)

theorem patchable_union (ts : List StateId) : (NfaState.union ts).Patchable := nofun

theorem patchable_accept : NfaState.accept.Patchable := nofun

end NfaState

/-- Lists of states for all exits, of which only the state at place `k` goes to the exit. -/
structure Dangles (l : StateId → List NfaState) (k : ℕ) : Prop where
  target : ∀ x, ∃ q, (l x)[k]? = some q ∧ q.target? = some x
  patch : ∀ x t, (l x).modify k (·.patch t) = l t

namespace Dangles

variable {l : StateId → List NfaState} {k : ℕ}

theorem lt (h : Dangles l k) (x : StateId) : k < (l x).length := by
  obtain ⟨q, hq, -⟩ := h.target x
  exact (List.getElem?_eq_some_iff.mp hq).1

theorem single {q : StateId → NfaState} (htarget : ∀ x, (q x).target? = some x)
    (hpatch : ∀ x t, (q x).patch t = q t) : Dangles (fun x => [q x]) 0 :=
  ⟨fun x => ⟨q x, rfl, htarget x⟩, fun x t => congrArg (· :: []) (hpatch x t)⟩

theorem epsilon : Dangles (fun x => [.epsilon x]) 0 := single (fun _ => rfl) fun _ _ => rfl

theorem append (pre : List NfaState) (h : Dangles l k) :
    Dangles (fun x => pre ++ l x) (pre.length + k) := by
  refine ⟨fun x => ?_, fun x t => ?_⟩
  · rw [List.getElem?_append_right (Nat.le_add_right _ _), Nat.add_sub_cancel_left]
    exact h.target x
  · rw [modify_append_add, h.patch]

theorem before (post : List NfaState) (h : Dangles l k) : Dangles (fun x => l x ++ post) k := by
  refine ⟨fun x => ?_, fun x t => ?_⟩
  · rw [List.getElem?_append_left (h.lt x)]
    exact h.target x
  · rw [modify_append_of_lt (h.lt x), h.patch]

theorem choice (ts : List StateId) (post : List NfaState) :
    Dangles (fun x => .union ts :: .epsilon x :: post) 1 :=
  (epsilon.before post).append [.union ts]

end Dangles

def BuildEvent.Patches (s : StateId) : BuildEvent → Bool
  | .patched s' _ => s' == s
  | .made _ _ => false

namespace Builder

variable {b b₀ b' : Builder} {q : NfaState} {s t : ℕ}

@[simp] theorem size_push (b : Builder) (q : NfaState) : (b.push q).states.size = b.states.size + 1 :=
  Array.size_push _

@[simp] theorem size_patch (b : Builder) (s t : StateId) : (b.patch s t).states.size = b.states.size :=
  Array.size_modify

@[simp] theorem size_note (b : Builder) (f : Fragment) : (b.note f).states.size = b.states.size := rfl

def patches (b : Builder) (s : StateId) : ℕ := b.events.countP (·.Patches s)

/-- Patches are accounted for, and fragments end in states that were open when they were made. -/
structure Tidy (b : Builder) : Prop where
  once : ∀ s q t, b.states[s]? = some q → q.target? = some t → b.patches s = if t = unset then 0 else 1
  beyond : ∀ s, b.states.size ≤ s → b.patches s = 0
  ends : ∀ f last, .made f last ∈ b.events →
    (∃ q, last = some q ∧ q.target? = some unset) ∧ ∃ q, b.states[f.stop]? = some q ∧ q.target? ≠ none

namespace Tidy

theorem empty : Tidy ⟨#[], []⟩ :=
  ⟨fun _ _ _ hs => by simp at hs, fun _ _ => rfl, fun _ _ hf => by simp at hf⟩

theorem push (h : b.Tidy) (hq : q.Patchable) : (b.push q).Tidy := by
  refine ⟨fun s q' t hs ht => ?_, fun s hs => ?_, fun f last hf => ?_⟩
  · rw [Builder.push, Array.getElem?_push] at hs
    split at hs
    · rename_i hlast
      obtain rfl := Option.some.inj hs
      rw [if_pos (hq t ht)]
      exact h.beyond s hlast.ge
    · exact h.once s q' t hs ht
  · rw [size_push] at hs
    exact h.beyond s (Nat.le_of_succ_le hs)
  · obtain ⟨hlast, q', hq', ht⟩ := h.ends f last hf
    have hlt := (Array.getElem?_eq_some_iff.mp hq').1
    exact ⟨hlast, q', by rwa [Builder.push, Array.getElem?_push_lt hlt, ← Array.getElem?_eq_getElem hlt], ht⟩

theorem getElem?_patch (b : Builder) (s t s' : StateId) :
    (b.patch s t).states[s']? = if s = s' then b.states[s']?.map (·.patch t) else b.states[s']? :=
  Array.getElem?_modify

theorem patches_patch (b : Builder) (s t s' : StateId) :
    (b.patch s t).patches s' = b.patches s' + if s = s' then 1 else 0 := by
  simp [patches, Builder.patch, List.countP_cons, BuildEvent.Patches]

theorem patch (h : b.Tidy) (hs : b.states[s]? = some q) (hq : q.Patchable) (ht : t ≠ unset) :
    (b.patch s t).Tidy := by
  refine ⟨fun s' q' t' hs' ht' => ?_, fun s' hs' => ?_, fun f last hf => ?_⟩
  · rw [getElem?_patch] at hs'
    rw [patches_patch]
    split at hs'
    · rename_i heq
      subst heq
      rw [hs, Option.map_some] at hs'
      obtain rfl := Option.some.inj hs'
      rw [NfaState.target?_patch, Option.map_eq_some_iff] at ht'
      obtain ⟨x, hx, rfl⟩ := ht'
      rw [h.once s q x hs hx, if_pos (hq x hx), if_pos rfl, if_neg ht]
    · rename_i hne
      rw [if_neg hne]
      exact h.once s' q' t' hs' ht'
  · have hlt := (Array.getElem?_eq_some_iff.mp hs).1
    rw [size_patch] at hs'
    rw [patches_patch, h.beyond s' hs', if_neg (hlt.trans_le hs').ne]
  · obtain ⟨hlast, q', hq', ht'⟩ := h.ends f last (by simpa [Builder.patch] using hf)
    refine ⟨hlast, ?_⟩
    rw [getElem?_patch, hq']
    split
    · exact ⟨q'.patch t, rfl, by rwa [NfaState.target?_patch, Ne, Option.map_eq_none_iff]⟩
    · exact ⟨q', rfl, ht'⟩

theorem note (h : b.Tidy) {f : Fragment} (hs : b.states[f.stop]? = some q) (hq : q.target? = some unset) :
    (b.note f).Tidy := by
  refine ⟨fun s q' t hs' ht => ?_, fun s hs' => ?_, fun f' last hf => ?_⟩
  · rw [← h.once s q' t hs' ht]
    exact List.countP_cons_of_neg (by simp [BuildEvent.Patches])
  · rw [← h.beyond s hs']
    exact List.countP_cons_of_neg (by simp [BuildEvent.Patches])
  · rcases List.mem_cons.mp hf with heq | hf
    · obtain ⟨rfl, rfl⟩ := BuildEvent.made.inj heq
      exact ⟨⟨q, hs, hq⟩, q, hs, by simp [hq]⟩
    · exact h.ends f' last hf

end Tidy

structure Grown (b₀ : Builder) (l : List NfaState) (b : Builder) : Prop where
  toList : b.states.toList = b₀.states.toList ++ l
  tidy : b.states.size ≤ unset → b₀.Tidy → b.Tidy

namespace Grown

variable {l l' : List NfaState}

theorem refl (b : Builder) : Grown b [] b := ⟨(List.append_nil _).symm, fun _ h => h⟩

theorem size (h : Grown b₀ l b) : b.states.size = b₀.states.size + l.length := by
  rw [← Array.length_toList, h.toList, List.length_append, Array.length_toList]

theorem trans (h : Grown b₀ l b) (h' : Grown b l' b') : Grown b₀ (l ++ l') b' where
  toList := by rw [h'.toList, h.toList, List.append_assoc]
  tidy hsize htidy := h'.tidy hsize (h.tidy (Nat.le_trans (h'.size ▸ Nat.le_add_right _ _) hsize) htidy)

theorem push (h : Grown b₀ l b) (hq : q.Patchable) : Grown b₀ (l ++ [q]) (b.push q) where
  toList := by rw [Builder.push, Array.toList_push, h.toList, List.append_assoc]
  tidy hsize htidy := by
    rw [size_push] at hsize
    exact (h.tidy (Nat.le_of_succ_le hsize) htidy).push hq

theorem getElem? (h : Grown b₀ l b) (k : ℕ) : b.states[b₀.states.size + k]? = l[k]? := by
  rw [← Array.getElem?_toList, h.toList, ← Array.length_toList,
    List.getElem?_append_right (Nat.le_add_right _ _), Nat.add_sub_cancel_left]

theorem patch (h : Grown b₀ l b) {k : ℕ} (hs : b₀.states.size + k = s) (hk : l[k]? = some q) (hq : q.Patchable)
    (ht : t < b.states.size) : Grown b₀ (l.modify k (·.patch t)) (b.patch s t) where
  toList := by
    rw [Builder.patch, Array.toList_modify, h.toList, ← hs, ← Array.length_toList, modify_append_add]
  tidy hsize htidy := by
    rw [size_patch] at hsize
    exact (h.tidy hsize htidy).patch (hs ▸ (h.getElem? k).trans hk) hq (ht.trans_le hsize).ne

theorem close {l : StateId → List NfaState} {k : ℕ} (h : Grown b₀ (l unset) b) (hl : Dangles l k)
    (hs : b₀.states.size + k = s) (ht : t < b.states.size) : Grown b₀ (l t) (b.patch s t) := by
  obtain ⟨q, hk, hq⟩ := hl.target unset
  rw [← hl.patch unset t]
  exact h.patch hs hk (NfaState.patchable_of_target? hq) ht

theorem branch (pre : List NfaState) {post : List NfaState} {ts : List StateId}
    (h : Grown b₀ (pre ++ .union ts :: post) b) (hs : b₀.states.size + pre.length = s) (ht : t < b.states.size) :
    Grown b₀ (pre ++ .union (ts ++ [t]) :: post) (b.patch s t) := by
  have hchoice : (pre ++ .union ts :: post)[pre.length]? = some (.union ts) := by simp
  have hpatch := h.patch hs hchoice (NfaState.patchable_union ts) ht
  rwa [← Nat.add_zero pre.length, modify_append_add] at hpatch

theorem note {l : StateId → List NfaState} {k : ℕ} (h : Grown b₀ (l unset) b) (hl : Dangles l k) {f : Fragment}
    (hs : b₀.states.size + k = f.stop) : Grown b₀ (l unset) (b.note f) where
  toList := h.toList
  tidy hsize htidy := by
    obtain ⟨q, hk, hq⟩ := hl.target unset
    exact (h.tidy hsize htidy).note (hs ▸ (h.getElem? k).trans hk) hq

end Grown

/-- A fragment was built: the states that were added are those of `l`, with their exit not known yet. -/
structure Builds (b₀ : Builder) (l : StateId → List NfaState) (r : Fragment × Builder) : Prop where
  grown : Grown b₀ (l unset) r.2
  ends : ∃ k, Dangles l k ∧ r.1 = ⟨b₀.states.size, b₀.states.size + k⟩

namespace Builds

variable {l l' : StateId → List NfaState} {f f' : Fragment}

theorem note {k : ℕ} (h : Grown b₀ (l unset) b) (hl : Dangles l k) (hs : b₀.states.size + k = s) :
    Builds b₀ l (⟨b₀.states.size, s⟩, b.note ⟨b₀.states.size, s⟩) :=
  ⟨h.note hl hs, k, hl, hs ▸ rfl⟩

theorem size_lt (h : Builds b₀ l (f, b)) : b₀.states.size < b.states.size := by
  obtain ⟨k, hk, -⟩ := h.ends
  rw [h.grown.size]
  exact Nat.lt_add_of_pos_right (Nat.zero_lt_of_lt (hk.lt unset))

theorem length (h : Builds b₀ l (f, b)) (x : StateId) : b₀.states.size + (l x).length = b.states.size := by
  obtain ⟨k, hk, -⟩ := h.ends
  rw [h.grown.size, ← hk.patch unset x, List.length_modify]

theorem follow (h : Builds b₀ l (f, b)) (h' : Builds b l' (f', b')) :
    Builds b₀ (fun x => l b.states.size ++ l' x)
      (⟨f.start, f'.stop⟩, (b'.patch f.stop f'.start).note ⟨f.start, f'.stop⟩) := by
  obtain ⟨k, hk, rfl⟩ := h.ends
  obtain ⟨k', hk', rfl⟩ := h'.ends
  have hclosed := (h.grown.trans h'.grown).close (hk.before (l' unset)) rfl h'.size_lt
  exact note hclosed (hk'.append (l b.states.size)) (by rw [← Nat.add_assoc, h.length])

end Builds

end Builder

end Automaton

end ConstrainedDecoding
