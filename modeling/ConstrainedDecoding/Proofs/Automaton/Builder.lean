import ConstrainedDecoding.Proofs.Automaton.Layout
import ConstrainedDecoding.Proofs.Automaton.OpenEnds

/-! Built one state at a time, the automaton of an expression is the one that is laid out for it, and what is
refused is refused alike.
-/
namespace ConstrainedDecoding.Automaton

open Pattern (Expr)

abbrev Agrees {α β : Type} (R : α → β → Prop) (x : Except Error α) (y : Except Error β) : Prop :=
  InStep (fun _ => False) R x y

namespace Builder

theorem Builds.size {b : Builder} {p : Plan} {r : Fragment × Builder}
    (h : Builds b (fun exit => p.states b.states.size exit) r) : r.2.states.size = b.states.size + p.size := by
  rw [h.grown.size, Plan.length_states]

end Builder

namespace Build

open Plan (reserve leaf gather followed)
open Builder (Builds Grown)

variable {limits : CompileLimits} {b b₀ : Builder} {α β : Type} {R : α → β × Builder → Prop}

theorem run_patch_bind (s t : StateId) (k : Unit → Build β) (b : Builder) :
    (patch s t >>= k).run b = (k ()).run (b.patch s t) := rfl

theorem run_fragment_bind (s t : StateId) (k : Fragment → Build β) (b : Builder) :
    (fragment s t >>= k).run b = (k ⟨s, t⟩).run (b.note ⟨s, t⟩) := rfl

theorem agrees_add {q : NfaState} {g : ℕ → Except Error α} {k : StateId → Build β}
    (h : b.states.size + 1 ≤ limits.nfaStates →
      Agrees R (g (b.states.size + 1)) ((k b.states.size).run (b.push q))) :
    Agrees R (reserve limits b.states.size 1 >>= g) ((add limits q >>= k).run b) := by
  rw [StateT.run_bind]
  by_cases hfits : b.states.size < limits.nfaStates
  · simp only [reserve, add, StateT.run, if_pos hfits, if_pos (Nat.succ_le_of_lt hfits)]
    exact h hfits
  · simp only [reserve, add, StateT.run, if_neg hfits, if_neg (mt Nat.lt_of_succ_le hfits)]
    exact .error _

/-- What is built on any builder is what is laid out after its states. -/
def Carries (x : Build Fragment) (y : ℕ → Except Error (Plan × ℕ)) : Prop :=
  ∀ b, Agrees (fun p r => p.2 = r.2.states.size ∧ Builds b (fun exit => p.1.states b.states.size exit) r)
    (y b.states.size) (x.run b)

section Carries

variable {x : Build Fragment} {y : ℕ → Except Error (Plan × ℕ)} {xs : List (Build Fragment)}
  {ys : List (ℕ → Except Error (Plan × ℕ))}

theorem Carries.bind (h : Carries x y) {g : Plan × ℕ → Except Error α} {k : Fragment → Build β}
    (hk : ∀ p c f b', y b.states.size = .ok (p, c) → c = b'.states.size →
      Builds b (fun exit => p.states b.states.size exit) (f, b') →
        Agrees R (g (p, b'.states.size)) ((k f).run b')) :
    Agrees R (y b.states.size >>= g) ((x >>= k).run b) := by
  rw [StateT.run_bind]
  refine (h b).bind fun p r hp hr => ?_
  obtain ⟨p, c⟩ := p
  obtain ⟨f, b'⟩ := r
  obtain ⟨rfl, hbuilds⟩ := hr
  exact hk p _ f b' hp rfl hbuilds

theorem Carries.congr {p p' : Plan} (h : Carries x (leaf limits · p))
    (hp : ∀ base exit, p.states base exit = p'.states base exit) : Carries x (leaf limits · p') := by
  have hsize : p.size = p'.size := by rw [← p.length_states 0 0, hp, p'.length_states]
  intro b
  have hb := h b
  simp only [Plan.leaf_eq, ← hsize, InStep.map_left_iff, hp] at hb ⊢
  exact hb

theorem single_carries {q : StateId → NfaState} {p : Plan} (hp : ∀ base exit, p.states base exit = [q exit])
    (hq : Dangles (fun exit => [q exit]) 0) (hopen : (q unset).target? = some unset) :
    Carries (single limits (q unset)) (leaf limits · p) := by
  intro b
  have hsize : p.size = 1 := by rw [← p.length_states 0 0, hp]; rfl
  simp only [Plan.leaf_eq, hsize]
  refine agrees_add fun _ => ?_
  refine .ok ⟨(Array.size_push _).symm, ?_⟩
  simp only [hp]
  exact .note ((Grown.refl b).push (NfaState.patchable_of_target? hopen)) hq rfl

theorem epsilon_carries : Carries (single limits (.epsilon unset)) (leaf limits · Plan.empty) :=
  single_carries (fun _ _ => rfl) .epsilon rfl

theorem agrees_epsilon {g : ℕ → Except Error α} {k : Fragment → Build β}
    (h : ∀ f b', b'.states.size = b.states.size + 1 → b'.states.size ≤ limits.nfaStates →
      Builds b (fun exit => [.epsilon exit]) (f, b') → Agrees R (g b'.states.size) ((k f).run b')) :
    Agrees R (reserve limits b.states.size 1 >>= g) ((single limits (.epsilon unset) >>= k).run b) := by
  have hfirst : reserve limits b.states.size 1 = leaf limits b.states.size Plan.empty >>= fun r => pure r.2 :=
    (Plan.leaf_bind_snd limits b.states.size Plan.empty).symm
  rw [hfirst, bind_assoc]
  refine epsilon_carries.bind fun p c f b' hleaf hc hp => ?_
  obtain ⟨rfl, -⟩ := Plan.leaf_eq_ok hleaf
  exact h f b' hp.size (hc ▸ Plan.leaf_room hleaf) hp

/-- What follows a fragment is patched to it part by part. -/
theorem follow_agrees (h : List.Forall₂ Carries xs ys) {l : StateId → List NfaState} {f : Fragment}
    (hb : Builds b₀ l (f, b)) :
    Agrees (fun ps r => ps.2 = r.2.states.size ∧ Builds b₀ (followed l b.states.size ps.1) r)
      (gather ys b.states.size) ((follow f xs).run b) := by
  induction h generalizing l f b with
  | nil => exact .ok ⟨rfl, hb⟩
  | cons hx _ ih =>
    rw [follow, gather]
    refine hx.bind fun p _ f' b' _ _ hp => InStep.map_left_iff.mpr ?_
    have hnext := ih (hb.follow hp)
    simp only [Builder.size_note, Builder.size_patch, hp.size, Plan.followed_cons] at hnext
    rw [hp.size]
    exact hnext

theorem follow_agrees_leaf {ps : List Plan}
    (h : List.Forall₂ Carries xs (ps.map fun p count => leaf limits count p)) {l : StateId → List NfaState}
    {f : Fragment} (hb : Builds b₀ l (f, b)) (hroom : b.states.size ≤ limits.nfaStates) :
    Agrees (fun c r => c = r.2.states.size ∧ Builds b₀ (followed l b.states.size ps) r)
      (reserve limits b.states.size (Plan.total (Plan.sizes ps))) ((follow f xs).run b) := by
  have hfollow := follow_agrees h hb
  rw [Plan.gather_leaves ps hroom] at hfollow
  exact InStep.map_left_iff.mp hfollow

theorem sequence_carries (hx : Carries x y) (hxs : List.Forall₂ Carries xs ys) :
    Carries (sequence limits (x :: xs)) fun count => do
      let (part, count) ← y count
      let (parts, count) ← gather ys count
      return (Plan.sequence (part :: parts), count) := by
  intro b
  refine hx.bind fun p _ f b' _ _ hp => InStep.map_left_iff.mpr ?_
  have hfollow := follow_agrees hxs hp
  simp only [hp.size, Plan.followed_states] at hfollow
  rw [hp.size]
  exact hfollow

theorem sequence_carries_leaf {ps : List Plan}
    (h : List.Forall₂ Carries xs (ps.map fun p count => leaf limits count p)) :
    Carries (sequence limits xs) (leaf limits · (Plan.sequence ps)) := by
  cases ps with
  | nil =>
    obtain rfl := List.forall₂_nil_right_iff.mp h
    exact epsilon_carries
  | cons p ps =>
    obtain ⟨x, xs, hx, hxs, rfl⟩ := List.forall₂_cons_right_iff.mp h
    simp only [← Plan.sequence_leaves]
    exact sequence_carries hx hxs

/-- The alternatives of a choice are patched to it, and to the state after it, one by one. -/
theorem branches_agrees (h : List.Forall₂ Carries xs ys) {ts : List StateId} {body : List NfaState}
    (hb : Grown b₀ (.union ts :: .epsilon unset :: body) b) :
    Agrees (fun ps r => ps.2 = r.2.states.size ∧
        Grown b₀ (.union (ts ++ Plan.starts b.states.size (Plan.sizes ps.1)) :: .epsilon unset ::
          (body ++ Plan.branches b.states.size (b₀.states.size + 1) ps.1)) r.2)
      (gather ys b.states.size) ((branches b₀.states.size (b₀.states.size + 1) xs).run b) := by
  induction h generalizing ts body b with
  | nil => exact .ok ⟨rfl, by simpa [Plan.starts, Plan.sizes, Plan.branches] using hb⟩
  | cons hx _ ih =>
    rw [branches, gather]
    refine hx.bind fun p _ f b' _ _ hp => InStep.map_left_iff.mpr ?_
    obtain ⟨k, hk, rfl⟩ := hp.ends
    have hsize : b.states.size = b₀.states.size + (body.length + 2) := hb.size
    have hexit : b₀.states.size + 1 < b'.states.size := (by omega : _ < b.states.size).trans hp.size_lt
    have hchoice := (hb.trans hp.grown).branch [] rfl hp.size_lt
    have hclosed := hchoice.close (hk.append (.union (ts ++ [b.states.size]) :: .epsilon unset :: body))
      (s := b.states.size + k) (by rw [hsize, Nat.add_assoc]; rfl) (by simpa using hexit)
    have hbody : Grown b₀ (.union (ts ++ [b.states.size]) :: .epsilon unset ::
        (body ++ p.states b.states.size (b₀.states.size + 1))) _ := hclosed
    have hrest := ih hbody
    simp only [Builder.size_patch, hp.size, List.append_assoc, List.singleton_append] at hrest
    rw [hp.size]
    exact hrest

theorem alternation_carries (h : List.Forall₂ Carries xs ys) :
    Carries (alternation limits xs) fun count => do
      let (parts, count) ← gather ys (← reserve limits count 2)
      return (.alternation parts, count) := by
  intro b
  simp only [Plan.reserve_add limits _ 1 1, bind_assoc]
  refine agrees_add fun _ => ?_
  rw [← Builder.size_push b (.union [])]
  refine agrees_add fun _ => InStep.map_left_iff.mpr ?_
  have hstart : Grown b [.union [], .epsilon unset] ((b.push (.union [])).push (.epsilon unset)) :=
    ((Grown.refl b).push (NfaState.patchable_union [])).push (NfaState.patchable_of_target? rfl)
  have hbranches := branches_agrees h hstart
  simp only [Builder.size_push] at hbranches ⊢
  rw [StateT.run_bind, ← bind_pure (gather ys _)]
  refine hbranches.bind fun ps r _ hr => .ok ⟨hr.1, ?_⟩
  exact .note (l := fun exit => (Plan.alternation ps.1).states b.states.size exit) hr.2 (.choice _ _) rfl

theorem alternation_carries_leaf {ps : List Plan}
    (h : List.Forall₂ Carries xs (ps.map fun p count => leaf limits count p)) :
    Carries (alternation limits xs) (leaf limits · (.alternation ps)) := by
  simp only [← Plan.alternation_leaves]
  exact alternation_carries h

theorem chain_carries (s : ByteSequence) : Carries (chain limits s) (leaf limits · (.bytes [s])) := by
  have hparts : List.Forall₂ Carries (s.map fun r => single limits (.range r.lo r.hi unset))
      ((s.map fun r => .bytes [[r]]).map fun p count => leaf limits count p) := by
    rw [List.map_map, List.forall₂_map_left_iff, List.forall₂_map_right_iff, List.forall₂_same]
    intro r _
    have hopen : Dangles (fun exit => [.range r.lo r.hi exit]) 0 := .single (fun _ => rfl) fun _ _ => rfl
    exact single_carries (fun _ _ => rfl) hopen rfl
  exact (sequence_carries_leaf hparts).congr (Plan.states_singles s)

theorem bytes_carries (ss : List ByteSequence) : Carries (bytes limits ss) (leaf limits · (.bytes ss)) := by
  by_cases hone : ∃ s, ss = [s]
  · obtain ⟨s, rfl⟩ := hone
    exact chain_carries s
  · have hbytes : bytes limits ss = alternation limits (ss.map (chain limits)) := by
      unfold bytes
      split
      · exact absurd ⟨_, rfl⟩ hone
      · rfl
    have hparts : List.Forall₂ Carries (ss.map (chain limits))
        ((ss.map fun s => .bytes [s]).map fun p count => leaf limits count p) := by
      rw [List.map_map, List.forall₂_map_left_iff, List.forall₂_map_right_iff, List.forall₂_same]
      exact fun s _ => chain_carries s
    rw [hbytes]
    refine (alternation_carries_leaf hparts).congr fun base exit => ?_
    exact (Plan.states_bytes (fun s hs => hone ⟨s, hs⟩) base exit).symm

section Repetition

variable {q : Plan} (hx : Carries x (leaf limits · q)) {l : StateId → List NfaState} {f : Fragment}
include hx

theorem loop_agrees (hb : Builds b₀ l (f, b)) :
    Agrees (fun c r => c = r.2.states.size ∧ Builds b₀ (fun exit => l b.states.size ++
        .union [b.states.size + 2, b.states.size + 1] :: .epsilon exit ::
          q.states (b.states.size + 2) b.states.size) r)
      (reserve limits b.states.size (2 + q.size)) ((loop limits x f).run b) := by
  have hplace := hb.length
  obtain ⟨k, hk, rfl⟩ := hb.ends
  rw [Plan.reserve_add limits _ 2, Plan.reserve_add limits _ 1 1, bind_assoc, loop]
  refine agrees_add fun _ => ?_
  rw [← Builder.size_push b (.union [])]
  refine agrees_add fun _ => ?_
  rw [← Builder.size_push (b.push _) (.epsilon unset), ← Plan.leaf_bind_snd]
  refine hx.bind fun p _ f' b' hleaf _ hp => ?_
  obtain ⟨rfl, -⟩ := Plan.leaf_eq_ok hleaf
  obtain ⟨k', hk', rfl⟩ := hp.ends
  have hlt := hp.size_lt
  have hadded := ((hb.grown.push (NfaState.patchable_union [])).push
    (NfaState.patchable_of_target? (q := .epsilon unset) rfl)).trans hp.grown
  simp only [Builder.size_push, List.append_assoc, List.singleton_append] at hlt hk' hadded ⊢
  have hlt' : b.states.size + 2 < b'.states.size := hlt
  have hsplit : b.states.size < b'.states.size := by omega
  have hexit : b.states.size + 1 < b'.states.size := by omega
  -- the split is patched before and after the end of its body, which comes back to it
  have hfront := hadded.close (hk.before _) rfl hsplit
  have hbody := hfront.branch _ (hplace _) (t := b.states.size + 2) (by simpa using hlt')
  have hback := hbody.close ((hk'.append [.union [b.states.size + 2], .epsilon unset]).append (l b.states.size))
    (s := b.states.size + 2 + k') (by rw [← Nat.add_assoc, hplace, Nat.add_assoc]; rfl)
    (t := b.states.size) (by simpa using hsplit)
  have hout := hback.branch _ (hplace _) (t := b.states.size + 1) (by simpa using hexit)
  have hnote := Builds.note hout ((Dangles.choice _ _).append (l b.states.size)) (s := b.states.size + 1)
    (by rw [← Nat.add_assoc, hplace])
  exact .ok ⟨by simp, hnote⟩

/-- Copies after a fragment, before each of which `out` can be taken. -/
theorem options_agrees (hb : Builds b₀ l (f, b)) {out : ℕ} (hout : out < b.states.size)
    (hroom : b.states.size ≤ limits.nfaStates) (n : ℕ) :
    Agrees (fun c r => c = r.2.states.size ∧
        Builds b₀ (Plan.repeated l (Plan.option q out) (q.size + 1) b.states.size n) r)
      (reserve limits b.states.size (n * (q.size + 1))) ((options limits x out n f).run b) := by
  induction n generalizing l f b with
  | zero =>
    rw [Nat.zero_mul, Plan.reserve_zero hroom]
    exact .ok ⟨rfl, hb⟩
  | succ n ih =>
    have hplace := hb.length
    obtain ⟨k, hk, rfl⟩ := hb.ends
    rw [show (n + 1) * (q.size + 1) = 1 + (q.size + n * (q.size + 1)) by ring,
      Plan.reserve_add limits _ 1, options]
    refine agrees_add fun _ => ?_
    have hadded := hb.grown.push (NfaState.patchable_union [])
    have hlt : b.states.size < (b.push (.union [])).states.size := by simp
    -- the split has the way out as its first alternative, before there is a copy to choose
    have hfront := hadded.close (hk.before _) rfl hlt
    have hchoice := hfront.branch _ (hplace _) (t := out)
      (by simpa using hout.trans hlt)
    have hsize : (((b.push (.union [])).patch (b₀.states.size + k) b.states.size).patch b.states.size
      out).states.size = b.states.size + 1 := by simp only [Builder.size_patch, Builder.size_push]
    rw [run_patch_bind, run_patch_bind, ← hsize, Plan.reserve_add, ← Plan.leaf_bind_snd, bind_assoc]
    refine hx.bind fun p c f' b' hleaf hc hp => ?_
    obtain ⟨rfl, -⟩ := Plan.leaf_eq_ok hleaf
    obtain ⟨k', hk', rfl⟩ := hp.ends
    have hsize' : b'.states.size = b.states.size + (p.size + 1) := by rw [hp.size, hsize]; ring
    have hlt' := hp.size_lt
    have hadded := hchoice.trans hp.grown
    simp only [hsize, List.append_assoc] at hlt' hk' hadded ⊢
    have hcopy := hadded.branch _ (hplace _) (t := b.states.size + 1) hlt'
    have hnote := Builds.note (l := fun exit => l b.states.size ++ Plan.option p out b.states.size exit)
      (s := b.states.size + 1 + k') hcopy ((hk'.append [.union [out, b.states.size + 1]]).append (l b.states.size))
      (by rw [← Nat.add_assoc, hplace, ← Nat.add_assoc]; rfl)
    have hrest := ih hnote (by simp; omega)
      (by simpa only [Builder.size_note, Builder.size_patch, ← hc] using Plan.leaf_room hleaf)
    simp only [Builder.size_note, Builder.size_patch, hsize', Plan.repeated_succ] at hrest
    simp only [run_patch_bind, run_fragment_bind, pure_bind, hsize']
    exact hrest

/-- The copies that a repetition can have, and the state that it is left through. -/
theorem optional_agrees (hb : Builds b₀ l (f, b)) {min m : ℕ} (hm : min < m) :
    Agrees (fun c r => c = r.2.states.size ∧ Builds b₀ (fun exit => l (b.states.size + 1) ++ .epsilon exit ::
        Plan.copies (Plan.option q b.states.size) (q.size + 1) (b.states.size + 1) b.states.size (m - min)) r)
      (reserve limits b.states.size (1 + (m - min) * (q.size + 1)))
      ((rest limits x min f (some m)).run b) := by
  have hplace := hb.length
  obtain ⟨k, hk, rfl⟩ := hb.ends
  obtain ⟨n, hn⟩ : ∃ n, m - min = n + 1 := ⟨m - min - 1, by omega⟩
  simp only [rest, if_pos hm, hn]
  rw [Plan.reserve_add]
  refine agrees_add fun hroom => ?_
  have hout : Builds b₀ (fun exit => l exit ++ [.epsilon unset])
      (⟨b₀.states.size, b₀.states.size + k⟩, b.push (.epsilon unset)) :=
    ⟨hb.grown.push (NfaState.patchable_of_target? rfl), k, hk.before _, rfl⟩
  have hlt : b.states.size < (b.push (.epsilon unset)).states.size := by simp
  have hoptions := options_agrees hx hout hlt (by simpa using hroom) (n + 1)
  simp only [Builder.size_push, Plan.repeated, List.append_assoc] at hoptions
  rw [StateT.run_bind, ← bind_pure (reserve _ _ _)]
  refine hoptions.bind fun c r hc hr => ?_
  obtain ⟨last, b'⟩ := r
  obtain ⟨rfl, hlast⟩ := hr
  have hlt' : b.states.size < b'.states.size := by
    rw [(Plan.reserve_eq_ok.mp hc).2]
    omega
  obtain ⟨k', hk', rfl⟩ := hlast.ends
  have hclosed := hlast.grown.close hk' rfl hlt'
  -- now the end of the last copy is closed, and the way out is the only open end
  refine .ok ⟨by simp, ?_⟩
  exact .note (l := fun exit => l (b.states.size + 1) ++ .epsilon exit :: _) hclosed
    ((Dangles.epsilon.before _).append (l (b.states.size + 1))) (hplace _)

theorem lead_agrees (min : ℕ) (b : Builder) :
    Agrees (fun c r => c = r.2.states.size ∧ Builds b (Plan.lead q b.states.size min) r)
      (reserve limits b.states.size (1 + min * q.size))
      ((do follow (← single limits (.epsilon unset)) (List.replicate min x)).run b) := by
  have hcopies : List.Forall₂ Carries (List.replicate min x)
      ((List.replicate min q).map fun p count => leaf limits count p) := by
    rw [List.map_replicate]
    induction min with
    | zero => exact .nil
    | succ min ih => exact .cons hx ih
  rw [Plan.reserve_add]
  refine agrees_epsilon fun f b' hsize hroom hp => ?_
  have hfollow := follow_agrees_leaf hcopies hp hroom
  rw [Plan.total_sizes_replicate] at hfollow
  rw [hsize] at hfollow ⊢
  exact hfollow

theorem repetition_carries_leaf {min : ℕ} {max : Option ℕ}
    (hwithin : ¬ (limits.repetition < min || max.any (limits.repetition < ·)) = true) :
    Carries (repetition limits x min max) (leaf limits · (.repetition q min max)) := by
  intro b
  have hlead := lead_agrees hx min b
  simp only [repetition, if_neg hwithin, Plan.leaf_eq, InStep.map_left_iff]
  rw [← bind_assoc, StateT.run_bind]
  have hsize {c : ℕ} (hc : reserve limits b.states.size (1 + min * q.size) = .ok c) :
      c = b.states.size + 1 + min * q.size := (Plan.reserve_eq_ok.mp hc).2.trans (Nat.add_assoc ..).symm
  cases max with
  | none =>
    simp only [Plan.size, Nat.add_comm q.size 2, Plan.states_loop]
    rw [Plan.reserve_add]
    refine hlead.bind fun c r hc hr => ?_
    obtain ⟨rfl, hbuilds⟩ := hr
    rw [← hsize hc]
    exact loop_agrees hx hbuilds
  | some m =>
    by_cases hm : min < m
    · simp only [Plan.size, if_pos hm, Plan.states_options q hm]
      rw [Plan.reserve_add, Nat.add_comm (_ * _) 1]
      refine hlead.bind fun c r hc hr => ?_
      obtain ⟨rfl, hbuilds⟩ := hr
      rw [← hsize hc]
      exact optional_agrees hx hbuilds hm
    · simp only [Plan.size, if_neg hm, Nat.add_zero, Plan.states_copies q hm, rest]
      rw [← bind_pure (reserve _ _ _)]
      exact hlead.bind fun c r _ hr => .ok hr

end Repetition

/-- A repetition of what is refused is refused when its first copy is built. -/
theorem repetition_refused (hx : Carries x y) {min : ℕ} {max : Option ℕ} {e : Error}
    (he : y (b.states.size + Plan.leadSize min max) = .error e) (hsome : ¬ (min = 0 ∧ max = some 0))
    (g : Plan × ℕ → Except Error α) {R : α → Fragment × Builder → Prop} :
    Agrees R (do g (← y (← reserve limits b.states.size (Plan.leadSize min max))))
      ((do rest limits x min (← follow (← single limits (.epsilon unset)) (List.replicate min x)) max).run b) := by
  have hrefused {c : ℕ} {b' : Builder} {k : Fragment → Build Fragment} (hc : c = b'.states.size)
      (hlead : b'.states.size = b.states.size + Plan.leadSize min max) :
      Agrees R (y c >>= g) ((x >>= k).run b') := by
    subst hc
    refine hx.bind fun p c f b' hp _ _ => ?_
    rw [hlead, he] at hp
    cases hp
  rcases Nat.eq_zero_or_pos min with rfl | hmin
  · have hthree : Plan.leadSize 0 max = 1 + (1 + 1) := by
      unfold Plan.leadSize
      rw [if_neg (by simpa using hsome)]
    rw [hthree] at hrefused ⊢
    simp only [Plan.reserve_add limits _ 1, bind_assoc]
    refine agrees_epsilon fun f b' hsize _ _ => ?_
    rw [List.replicate_zero, follow, pure_bind]
    cases max with
    | none =>
      refine agrees_add fun _ => ?_
      rw [← Builder.size_push b' (.union [])]
      refine agrees_add fun _ => ?_
      exact hrefused (Builder.size_push ..).symm (by simp only [Builder.size_push, hsize])
    | some m =>
      obtain ⟨n, rfl⟩ : ∃ n, m = n + 1 :=
        Nat.exists_eq_succ_of_ne_zero fun hm => hsome ⟨rfl, congrArg some hm⟩
      rw [rest, if_pos n.succ_pos, Nat.sub_zero]
      refine agrees_add fun _ => ?_
      rw [← Builder.size_push b' (.epsilon unset), options, bind_assoc]
      refine agrees_add fun _ => ?_
      simp only [bind_assoc, run_patch_bind]
      exact hrefused (by simp only [Builder.size_patch, Builder.size_push])
        (by simp only [Builder.size_patch, Builder.size_push, hsize])
  · obtain ⟨n, rfl⟩ : ∃ n, min = n + 1 := ⟨min - 1, by omega⟩
    have hone : Plan.leadSize (n + 1) max = 1 := if_pos (Or.inl hmin)
    rw [hone] at hrefused ⊢
    refine agrees_epsilon fun f b' hsize _ _ => ?_
    rw [List.replicate_succ, follow, bind_assoc]
    exact hrefused rfl hsize

theorem repetition_carries (hx : Carries x y)
    (hy : ∀ {count c : ℕ} {p : Plan}, y count = .ok (p, c) → y = (leaf limits · p)) (min : ℕ) (max : Option ℕ) :
    Carries (repetition limits x min max) (fun count => do
      if limits.repetition < min || max.any (limits.repetition < ·) then
        .error (.tooComplex .repetition limits.repetition)
      let lead ← reserve limits count (Plan.leadSize min max)
      if min = 0 ∧ max = some 0 then
        return (Plan.empty, lead)
      let (part, _) ← y lead
      leaf limits count (.repetition part min max)) := by
  intro b
  by_cases hover : (limits.repetition < min || max.any (limits.repetition < ·)) = true
  · simp only [repetition, if_pos hover]
    exact .error _
  · by_cases hnone : min = 0 ∧ max = some 0
    · obtain ⟨rfl, rfl⟩ := hnone
      simp only [repetition, if_neg hover]
      exact agrees_epsilon fun f b' _ _ hp => .ok ⟨rfl, hp⟩
    · simp only [if_neg hover, if_neg hnone]
      -- all copies have the plan of the first one, if that has any
      cases hfirst : y (b.states.size + Plan.leadSize min max) with
      | error e =>
        simp only [repetition, if_neg hover]
        exact repetition_refused hx hfirst hnone _
      | ok r =>
        obtain rfl := hy hfirst
        simp only [Plan.repetition_leaf hnone]
        exact repetition_carries_leaf hx hover b

end Carries

mutual

/-- What is built for an expression is what is laid out for it. -/
theorem ofExpr_carries : ∀ e : Expr, Carries (ofExpr limits e) fun count => Plan.ofExpr limits count e
  | .empty => epsilon_carries
  | .literal bs => chain_carries _
  | .scalars set => bytes_carries _
  | .bytes set => bytes_carries _
  | .assertion a => by
    simp only [Plan.ofExpr]
    cases h : Plan.anchorOf a with
    | error e =>
      intro b
      rw [ofExpr, h]
      exact .error _
    | ok a' =>
      rw [ofExpr, h]
      have hopen : Dangles (fun exit => [.anchor a' exit]) 0 := .single (fun _ => rfl) fun _ _ => rfl
      exact single_carries (fun _ _ => rfl) hopen rfl
  | .repetition sub min max _ => by
    simp only [Plan.ofExpr]
    exact repetition_carries (ofExpr_carries sub) (Plan.ofExpr_eq_leaf sub) min max
  | .capture _ sub => ofExpr_carries sub
  | .concat [] => epsilon_carries
  | .concat (e :: es) => by
    simp only [Plan.ofExpr, Plan.ofExprs_eq_gather]
    exact sequence_carries (ofExpr_carries e) (ofExprs_carries es)
  | .alternation es => by
    simp only [Plan.ofExpr, Plan.ofExprs_eq_gather]
    exact alternation_carries (ofExprs_carries es)

theorem ofExprs_carries : ∀ es : List Expr,
    List.Forall₂ Carries (ofExprs limits es) (es.map fun e count => Plan.ofExpr limits count e)
  | [] => .nil
  | e :: es => .cons (ofExpr_carries e) (ofExprs_carries es)

end

/-- Building ends with the automaton that is laid out, and with its patches accounted for. -/
theorem automaton_agrees (e : Expr) :
    Agrees (fun nfa r => nfa = ⟨r.2.states, r.1⟩ ∧ (r.2.states.size ≤ unset → r.2.Tidy))
      (Nfa.ofExpr limits e) ((automaton limits e).run ⟨#[], []⟩) := by
  rw [Nfa.ofExpr, automaton]
  refine (ofExpr_carries e).bind (b := ⟨#[], []⟩) fun p c f b _ hc hp => ?_
  refine agrees_add fun _ => .ok ?_
  obtain ⟨k, hk, rfl⟩ := hp.ends
  have hadded := hp.grown.push NfaState.patchable_accept
  have hclosed := hadded.close (hk.before [.accept]) rfl (t := b.states.size) (by simp)
  have hstates := (congrArg List.toArray hclosed.toList).symm
  exact ⟨congrArg (Nfa.mk · 0) hstates, fun hsize => hclosed.tidy hsize .empty⟩

end Build

/-- An automaton can be built exactly if it can be laid out, and it is the same one. -/
theorem Builder.ofExpr_agrees (limits : CompileLimits) (e : Expr) :
    Agrees (fun nfa r => nfa = r.1 ∧ (nfa.states.size ≤ unset → Builder.Tidy ⟨nfa.states, r.2⟩))
      (Nfa.ofExpr limits e) (Builder.ofExpr limits e) := by
  rw [Builder.ofExpr, ← bind_pure (Nfa.ofExpr limits e)]
  refine (Build.automaton_agrees e).bind fun nfa r _ hr => .ok ?_
  obtain ⟨rfl, htidy⟩ := hr
  exact ⟨rfl, htidy⟩

end ConstrainedDecoding.Automaton
