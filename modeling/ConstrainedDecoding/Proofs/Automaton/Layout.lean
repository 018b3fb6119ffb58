import ConstrainedDecoding.Proofs.Automaton.Plan

/-! How plans are counted and laid out does not depend on where they begin: an expression that has a plan after
one number of states has it after any other, and copies of a part follow each other.
-/
namespace ConstrainedDecoding.Automaton

namespace Plan

open Pattern (Expr)

section Copies

variable {l : StateId → List NfaState} {piece : ℕ → StateId → List NfaState} {n base : ℕ}

/-- Copies of a piece of `n` states, each of which goes on with the next and the last with `exit`. -/
def copies (piece : ℕ → StateId → List NfaState) (n base : ℕ) (exit : StateId) : ℕ → List NfaState
  | 0 => []
  | 1 => piece base exit
  | k + 2 => piece base (base + n) ++ copies piece n (base + n) exit (k + 1)

def repeated (l : StateId → List NfaState) (piece : ℕ → StateId → List NfaState) (n base : ℕ) :
    ℕ → StateId → List NfaState
  | 0 => l
  | k + 1 => fun exit => l base ++ copies piece n base exit (k + 1)

def followed (l : StateId → List NfaState) (base : ℕ) : List Plan → StateId → List NfaState
  | [] => l
  | p :: ps => fun exit => l base ++ (sequence (p :: ps)).states base exit

def option (sub : Plan) (out : StateId) (base : ℕ) (exit : StateId) : List NfaState :=
  .union [out, base + 1] :: sub.states (base + 1) exit

theorem flatMap_copies (piece : ℕ → StateId → List NfaState) (n base exit k : ℕ) :
    (List.range k).flatMap (fun i => piece (base + i * n)
        (if i + 1 < k then base + (i + 1) * n else exit)) = copies piece n base exit k := by
  induction k generalizing base with
  | zero => rfl
  | succ k ih =>
    cases k with
    | zero => simp [copies]
    | succ k =>
      rw [List.range_succ_eq_map, List.flatMap_cons, List.flatMap_map, copies, ← ih]
      congr 1
      · simp
      · refine List.flatMap_congr fun i _ => ?_
        simp only [Nat.succ_eq_add_one, Nat.add_lt_add_iff_right]
        rw [show base + (i + 1) * n = base + n + i * n by ring,
          show base + (i + 1 + 1) * n = base + n + (i + 1) * n by ring]

theorem repeated_succ (l : StateId → List NfaState) (piece : ℕ → StateId → List NfaState) (n base k : ℕ) :
    repeated (fun exit => l base ++ piece base exit) piece n (base + n) k =
      repeated l piece n base (k + 1) := by
  cases k with
  | zero => rfl
  | succ k =>
    funext exit
    simp [repeated, copies]

theorem followed_cons (l : StateId → List NfaState) (base : ℕ) (p : Plan) (ps : List Plan) :
    followed (fun exit => l base ++ p.states base exit) (base + p.size) ps = followed l base (p :: ps) := by
  cases ps with
  | nil => rfl
  | cons q ps =>
    funext exit
    exact List.append_assoc _ _ _

theorem followed_states (p : Plan) (base : ℕ) (ps : List Plan) :
    followed (fun exit => p.states base exit) (base + p.size) ps =
      fun exit => (sequence (p :: ps)).states base exit :=
  followed_cons (fun _ => []) base p ps

theorem followed_replicate (l : StateId → List NfaState) (sub : Plan) (base k : ℕ) :
    followed l base (List.replicate k sub) = repeated l (fun base exit => sub.states base exit) sub.size base k := by
  induction k generalizing l base with
  | zero => rfl
  | succ k ih =>
    rw [List.replicate_succ, ← followed_cons, ih]
    exact repeated_succ l (fun base exit => sub.states base exit) sub.size base k

theorem total_sizes_replicate (sub : Plan) (k : ℕ) :
    total (sizes (List.replicate k sub)) = k * sub.size := by
  induction k with
  | zero => simp [sizes, total]
  | succ k ih => rw [List.replicate_succ, sizes, total_cons, ih, Nat.succ_mul, Nat.add_comm]

/-- What a repetition begins with: a state before its copies, and the copies that it must have. -/
def lead (sub : Plan) (base min : ℕ) : StateId → List NfaState :=
  followed (fun exit => [.epsilon exit]) (base + 1) (List.replicate min sub)

private theorem lead_eq (sub : Plan) (base min exit : ℕ) :
    .epsilon (if 0 < min then base + 1 + 0 * sub.size else exit) ::
        (List.range min).flatMap (fun i => sub.states (base + 1 + i * sub.size)
          (if i + 1 < min then base + 1 + (i + 1) * sub.size else exit)) =
      lead sub base min exit := by
  rw [lead, followed_replicate, flatMap_copies (fun base exit => sub.states base exit)]
  cases min with
  | zero => rfl
  | succ k => rw [if_pos k.succ_pos, Nat.zero_mul]; rfl

theorem states_loop (sub : Plan) (min base exit : ℕ) :
    (repetition sub min none).states base exit =
      lead sub base min (base + 1 + min * sub.size) ++
        .union [base + 1 + min * sub.size + 2, base + 1 + min * sub.size + 1] :: .epsilon exit ::
          sub.states (base + 1 + min * sub.size + 2) (base + 1 + min * sub.size) := by
  simp only [states]
  rw [lead_eq]

theorem states_options (sub : Plan) {min m : ℕ} (h : min < m) (base exit : ℕ) :
    (repetition sub min (some m)).states base exit =
      lead sub base min (base + 1 + min * sub.size + 1) ++
        .epsilon exit :: copies (option sub (base + 1 + min * sub.size)) (sub.size + 1)
          (base + 1 + min * sub.size + 1) (base + 1 + min * sub.size) (m - min) := by
  have hnext (j : ℕ) : base + 1 + min * sub.size + 1 + j * (sub.size + 1) + sub.size + 1 =
      base + 1 + min * sub.size + 1 + (j + 1) * (sub.size + 1) := by ring
  simp only [states, if_pos h, hnext]
  rw [lead_eq, ← flatMap_copies]
  rfl

theorem states_copies (sub : Plan) {min m : ℕ} (h : ¬ min < m) (base exit : ℕ) :
    (repetition sub min (some m)).states base exit = lead sub base min exit := by
  simp only [states, if_neg h, List.append_nil]
  rw [lead_eq]

theorem states_singles (s : ByteSequence) (base exit : ℕ) :
    (sequence (s.map fun r => bytes [[r]])).states base exit = chain base exit s := by
  induction s generalizing base with
  | nil => rfl
  | cons r s ih =>
    cases s with
    | nil => rfl
    | cons r' s =>
      rw [List.map_cons, List.map_cons, sequence, states, ← List.map_cons (f := fun r => bytes [[r]]), ih]
      · rfl
      · exact List.cons_ne_nil _ _

theorem sizes_map_bytes (ss : List ByteSequence) : sizes (ss.map fun s => bytes [s]) = ss.map chainSize := by
  induction ss with
  | nil => rfl
  | cons s ss ih => rw [List.map_cons, sizes, ih, size, List.map_cons]

theorem branches_map_bytes (ss : List ByteSequence) (base exit : ℕ) :
    branches base exit (ss.map fun s => bytes [s]) = chains base exit ss := by
  induction ss generalizing base with
  | nil => rfl
  | cons s ss ih => rw [List.map_cons, branches, ih, size, states, chains]

/-- A class of several sequences is laid out as the alternation of them. -/
theorem states_bytes {ss : List ByteSequence} (h : ∀ s, ss ≠ [s]) (base exit : ℕ) :
    (bytes ss).states base exit = (alternation (ss.map fun s => bytes [s])).states base exit := by
  rw [states.eq_def, states.eq_def base exit (alternation _)]
  simp only [sizes_map_bytes, branches_map_bytes]

end Copies

section Count

variable {limits : CompileLimits} {count n m : ℕ}

theorem reserve_add (limits : CompileLimits) (count n m : ℕ) :
    reserve limits count (n + m) = reserve limits count n >>= (reserve limits · m) := by
  unfold reserve
  by_cases h : count + (n + m) ≤ limits.nfaStates
  · rw [if_pos h, if_pos (by omega), ok_bind, if_pos (by omega), Nat.add_assoc]
  · rw [if_neg h]
    split
    · rw [ok_bind, if_neg (by omega)]
    · rfl

theorem reserve_bind_of_le {α : Type} (h : n ≤ m) (f : ℕ → Except Error α) :
    (reserve limits count n >>= fun _ => reserve limits count m >>= f) = reserve limits count m >>= f := by
  unfold reserve
  split
  · rfl
  · rw [if_neg (by omega)]
    rfl

/-- What comes after states that are accounted for may assume that there is room for them. -/
theorem reserve_bind_congr {α : Type} {f g : ℕ → Except Error α}
    (h : count + n ≤ limits.nfaStates → f (count + n) = g (count + n)) :
    reserve limits count n >>= f = reserve limits count n >>= g := by
  unfold reserve
  split
  · exact h ‹_›
  · rfl

theorem reserve_zero (h : count ≤ limits.nfaStates) : reserve limits count 0 = .ok count := if_pos h

def gather : List (ℕ → Except Error (Plan × ℕ)) → ℕ → Except Error (List Plan × ℕ)
  | [], count => .ok ([], count)
  | y :: ys, count => do
    let (part, count) ← y count
    let (parts, count) ← gather ys count
    return (part :: parts, count)

theorem leaf_eq (limits : CompileLimits) (count : ℕ) (p : Plan) :
    leaf limits count p = reserve limits count p.size >>= fun count => pure (p, count) := rfl

theorem leaf_room {p q : Plan} {c : ℕ} (h : leaf limits count p = .ok (q, c)) : c ≤ limits.nfaStates := by
  simp only [leaf_eq, bind_eq_ok_iff, reserve_eq_ok, pure_eq_ok_iff, Prod.mk.injEq] at h
  obtain ⟨_, ⟨hroom, rfl⟩, -, rfl⟩ := h
  exact hroom

theorem leaf_bind_snd (limits : CompileLimits) (count : ℕ) (p : Plan) :
    (leaf limits count p >>= fun r => pure r.2) = reserve limits count p.size := by
  rw [leaf_eq, bind_assoc]
  exact bind_pure _

theorem ofExprs_eq_gather (es : List Expr) (count : ℕ) :
    ofExprs limits count es = gather (es.map fun e count => ofExpr limits count e) count := by
  induction es generalizing count with
  | nil => rfl
  | cons e es ih => simp only [ofExprs, List.map_cons, gather, ih]

theorem gather_leaves (ps : List Plan) (h : count ≤ limits.nfaStates) :
    gather (ps.map fun p count => leaf limits count p) count =
      reserve limits count (total (sizes ps)) >>= fun count => pure (ps, count) := by
  induction ps generalizing count with
  | nil =>
    rw [sizes, show total [] = 0 from rfl, reserve_zero h]
    rfl
  | cons p ps ih =>
    rw [List.map_cons, gather, leaf_eq, sizes, total_cons, reserve_add, bind_assoc, bind_assoc]
    refine reserve_bind_congr fun hfits => ?_
    simp only [pure_bind]
    rw [ih hfits, bind_assoc]
    rfl

theorem sequence_leaves (p : Plan) (ps : List Plan) (count : ℕ) :
    (do
      let (part, count) ← leaf limits count p
      let (parts, count) ← gather (ps.map fun p count => leaf limits count p) count
      return (sequence (part :: parts), count)) = leaf limits count (sequence (p :: ps)) := by
  rw [leaf_eq, leaf_eq, size_sequence, reserve_add, bind_assoc, bind_assoc]
  refine reserve_bind_congr fun hfits => ?_
  simp only [pure_bind]
  rw [gather_leaves ps hfits, bind_assoc]
  rfl

theorem alternation_leaves (ps : List Plan) (count : ℕ) :
    (do
      let (parts, count) ← gather (ps.map fun p count => leaf limits count p) (← reserve limits count 2)
      return (alternation parts, count)) = leaf limits count (alternation ps) := by
  rw [leaf_eq, size, Nat.add_comm, reserve_add, bind_assoc]
  refine reserve_bind_congr fun hfits => ?_
  rw [gather_leaves ps hfits, bind_assoc]
  rfl

theorem leadSize_add_le {sub : Plan} {min : ℕ} {max : Option ℕ} (h : ¬ (min = 0 ∧ max = some 0)) :
    leadSize min max + sub.size ≤ (repetition sub min max).size := by
  simp only [leadSize, size]
  rcases Nat.eq_zero_or_pos min with rfl | hmin
  · cases max with
    | none =>
      simp only [Nat.lt_irrefl, reduceCtorEq, or_self, if_false]
      omega
    | some m =>
      have hm : 0 < m := Nat.pos_of_ne_zero fun hm => h ⟨rfl, hm ▸ rfl⟩
      have hfit : sub.size + 1 ≤ m * (sub.size + 1) := Nat.le_mul_of_pos_left _ hm
      simp only [Nat.lt_irrefl, Option.some.injEq, hm.ne', or_self, if_false, hm, if_true, Nat.sub_zero]
      omega
  · have hfit : sub.size ≤ min * sub.size := Nat.le_mul_of_pos_left _ hmin
    simp only [hmin, true_or, if_true]
    omega

/-- What a repetition begins with needs not be accounted for beforehand. -/
theorem repetition_leaf {sub : Plan} {min : ℕ} {max : Option ℕ} (h : ¬ (min = 0 ∧ max = some 0)) :
    (do
      let lead ← reserve limits count (leadSize min max)
      let (part, _) ← leaf limits lead sub
      leaf limits count (repetition part min max)) = leaf limits count (repetition sub min max) := by
  simp only [leaf, bind_assoc, pure_bind]
  rw [← bind_assoc, ← reserve_add, reserve_bind_of_le (leadSize_add_le h)]

mutual

/-- An expression has the same plan after any number of states. -/
theorem ofExpr_eq_leaf : ∀ (e : Expr) {count c : ℕ} {p : Plan}, ofExpr limits count e = .ok (p, c) →
    (fun count => ofExpr limits count e) = fun count => leaf limits count p
  | .empty, _, _, _, h | .literal _, _, _, _, h | .scalars _, _, _, _, h | .bytes _, _, _, _, h
  | .concat [], _, _, _, h => by
    obtain ⟨rfl, -⟩ := leaf_eq_ok h
    rfl
  | .assertion a, _, _, _, h => by
    simp only [ofExpr, bind_eq_ok_iff] at h
    obtain ⟨b, hb, h⟩ := h
    obtain ⟨rfl, -⟩ := leaf_eq_ok h
    funext count
    rw [ofExpr, hb, ok_bind]
  | .capture _ sub, _, _, _, h => ofExpr_eq_leaf sub h
  | .concat (e :: es), _, _, _, h => by
    simp only [ofExpr, bind_eq_ok_iff, pure_eq_ok_iff, Prod.exists, Prod.mk.injEq] at h
    obtain ⟨p, _, he, ps, _, hes, rfl, -⟩ := h
    funext count
    rw [ofExpr, congrFun (ofExpr_eq_leaf e he) count]
    simp only [ofExprs_eq_gather, ofExprs_eq_leaves es hes]
    exact sequence_leaves p ps count
  | .alternation es, _, _, _, h => by
    simp only [ofExpr, bind_eq_ok_iff, pure_eq_ok_iff, Prod.exists, Prod.mk.injEq] at h
    obtain ⟨_, -, ps, _, hes, rfl, -⟩ := h
    funext count
    simp only [ofExpr, ofExprs_eq_gather, ofExprs_eq_leaves es hes]
    exact alternation_leaves ps count
  | .repetition sub min max _, _, _, _, h => by
    rw [ofExpr] at h
    split at h
    · cases h
    · rename_i hwithin
      funext count
      rw [ofExpr, if_neg hwithin]
      simp only [bind_eq_ok_iff] at h
      obtain ⟨_, -, h⟩ := h
      split at h
      · rename_i hnone
        obtain ⟨rfl, rfl⟩ := hnone
        obtain ⟨rfl, -⟩ := Prod.mk.inj (pure_eq_ok_iff.mp h)
        rfl
      · rename_i hsome
        simp only [bind_eq_ok_iff, Prod.exists] at h
        obtain ⟨q, _, hsub, h⟩ := h
        obtain ⟨rfl, -⟩ := leaf_eq_ok h
        simp only [if_neg hsome, congrFun (ofExpr_eq_leaf sub hsub)]
        exact repetition_leaf hsome

theorem ofExprs_eq_leaves : ∀ (es : List Expr) {count c : ℕ} {ps : List Plan},
    ofExprs limits count es = .ok (ps, c) →
      (es.map fun e count => ofExpr limits count e) = ps.map fun p count => leaf limits count p
  | [], _, _, _, h => by
    obtain ⟨rfl, -⟩ := Prod.mk.inj (Except.ok.inj h)
    rfl
  | e :: es, _, _, _, h => by
    simp only [ofExprs, bind_eq_ok_iff, pure_eq_ok_iff, Prod.exists, Prod.mk.injEq] at h
    obtain ⟨p, _, he, ps, _, hes, rfl, -⟩ := h
    rw [List.map_cons, List.map_cons, ofExpr_eq_leaf e he, ofExprs_eq_leaves es hes]

end

end Count

end Plan

end ConstrainedDecoding.Automaton
