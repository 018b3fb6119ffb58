/-! Searching graphs whose nodes are the numbers below a bound. -/

namespace ConstrainedDecoding

/-- A set of nodes that can be emptied at once: a node is in it if it bears the current stamp. -/
structure Marks where
  stamps : Array Nat
  stamp : Nat

namespace Marks

/-- No node below `n` is marked. -/
def none (n : Nat) : Marks := { stamps := Array.replicate n 0, stamp := 1 }

def contains (m : Marks) (i : Nat) : Bool := m.stamps[i]? == some m.stamp

/-- Mark a node; there is no effect beyond the bound. -/
def insert (m : Marks) (i : Nat) : Marks :=
  { m with stamps := m.stamps.setIfInBounds i m.stamp }

/-- Forget all marks. -/
def clear (m : Marks) : Marks := { m with stamp := m.stamp + 1 }

/-- How many nodes are not marked. -/
def unmarked (m : Marks) : Nat :=
  (List.range m.stamps.size).countP fun i => !m.contains i

theorem contains_insert (m : Marks) {i : Nat} (hi : i < m.stamps.size) (j : Nat) :
    (m.insert i).contains j = (m.contains j || i == j) := by
  by_cases h : i = j
  · subst h
    simp [contains, insert, hi]
  · simp [contains, insert, h]

theorem size_insert (m : Marks) (i : Nat) : (m.insert i).stamps.size = m.stamps.size := by
  simp [insert]

theorem unmarked_insert_lt (m : Marks) {i : Nat} (hi : i < m.stamps.size)
    (h : m.contains i = false) : (m.insert i).unmarked < m.unmarked := by
  have key : ∀ l : List Nat,
      l.countP (fun j => !(m.insert i).contains j) ≤ l.countP (fun j => !m.contains j) ∧
        (i ∈ l → l.countP (fun j => !(m.insert i).contains j) <
          l.countP (fun j => !m.contains j)) := by
    intro l
    induction l with
    | nil => simp
    | cons j l ih =>
      simp only [List.countP_cons, contains_insert m hi, List.mem_cons] at ih ⊢
      by_cases hj : i = j
      · subst hj
        have := ih.1
        simp only [h, Bool.false_or, beq_self_eq_true, Bool.not_true, Bool.not_false]
        simp only [Bool.false_eq_true, if_false, if_true, true_or, true_implies]
        omega
      · have hne : (i == j) = false := by simp [hj]
        simp only [hne, Bool.or_false, hj, false_or]
        exact ⟨by omega, fun hm => by have := ih.2 hm; omega⟩
  unfold unmarked
  rw [size_insert]
  exact (key _).2 (List.mem_range.2 hi)

end Marks

/-- Depth-first search: mark what can be reached from the nodes on the stack through unmarked nodes,
and list it after `found`. -/
def explore (succ : Nat → List Nat) (m : Marks) (stack found : List Nat) : Marks × List Nat :=
  match stack with
  | [] => (m, found)
  | i :: rest =>
    if _h : i < m.stamps.size ∧ m.contains i = false then
      explore succ (m.insert i) (succ i ++ rest) (i :: found)
    else
      explore succ m rest found
termination_by (m.unmarked, stack.length)
decreasing_by
  · exact Prod.Lex.left _ _ (m.unmarked_insert_lt _h.1 _h.2)
  · exact Prod.Lex.right _ (Nat.lt_succ_self _)

/-- Whether each node below `n` can be reached from the seeds. -/
def reachable (n : Nat) (succ : Nat → List Nat) (seeds : List Nat) : Marks :=
  (explore succ (.none n) seeds []).1

/-- Mark the nodes of a list that are not marked yet and append them to a queue. -/
def enqueue (m : Marks) (queue : Array Nat) : List Nat → Marks × Array Nat
  | [] => (m, queue)
  | i :: rest =>
    if i < m.stamps.size ∧ m.contains i = false then enqueue (m.insert i) (queue.push i) rest
    else enqueue m queue rest

/-- Take up the nodes of a queue from position `current` on; `fuel` bounds their number. -/
def breadthFirstFrom (succ : Nat → List Nat) (fuel current : Nat) (m : Marks)
    (queue : Array Nat) : Array Nat :=
  match fuel, queue[current]? with
  | fuel + 1, some i =>
    let (m, queue) := enqueue m queue (succ i)
    breadthFirstFrom succ fuel (current + 1) m queue
  | _, _ => queue

/-- The nodes below `n` that can be reached from `start`, in breadth-first order. -/
def breadthFirst (n : Nat) (succ : Nat → List Nat) (start : Nat) : Array Nat :=
  let (m, queue) := enqueue (.none n) #[] [start]
  breadthFirstFrom succ n 0 m queue

/-- The nodes from which an edge leads to each node. -/
def predecessors (n : Nat) (succ : Nat → List Nat) : Array (List Nat) :=
  (List.range n).foldl
    (fun preds i => (succ i).foldl (fun preds j => preds.modify j (i :: ·)) preds)
    (Array.replicate n [])

end ConstrainedDecoding
