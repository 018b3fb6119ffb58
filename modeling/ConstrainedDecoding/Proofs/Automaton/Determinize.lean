import ConstrainedDecoding.Proofs.Automaton.Numbering
import ConstrainedDecoding.Proofs.Automaton.Subset

/-! The subset construction without its memory: a search among the sets of states that follow each other. -/
namespace ConstrainedDecoding.Automaton

namespace Nfa

variable {nfa : Nfa} {seeds : List StateId} {atStart : Bool} {S : StateSet}

def close? (nfa : Nfa) (seeds : List StateId) (atStart : Bool) : Option StateSet :=
  let s := (nfa.closure (.none (2 * nfa.states.size)) seeds atStart).1
  if s.isDead then none else some s

theorem close?_eq (h : nfa.Closes seeds atStart S) :
    nfa.close? seeds atStart = if S.isDead then none else some S := by
  obtain ⟨hcl, -⟩ := nfa.closure_closes (Marks.bounded_none _) (Marks.size_none _) seeds atStart
  rw [close?, hcl.unique h]

theorem close?_eq_some_iff : nfa.close? seeds atStart = some S ↔ nfa.Closes seeds atStart S ∧ ¬ S.isDead := by
  obtain ⟨T, hcl⟩ := nfa.exists_closes seeds atStart
  rw [close?_eq hcl]
  constructor
  · intro h
    rw [Option.ite_none_left_eq_some, Option.some.injEq] at h
    exact h.2 ▸ ⟨hcl, h.1⟩
  · rintro ⟨h, hdead⟩
    rw [hcl.unique h, if_neg hdead]

def targets (nfa : Nfa) (S : StateSet) : List (Option StateSet) :=
  (ByteClasses.ofNfa nfa).representatives.toList.map fun b => nfa.close? (nfa.step S b) false

def tabulate (nfa : Nfa) (r : List StateSet × List (List (Option StateId))) : Dfa :=
  { classes := .ofNfa nfa
    rows := (r.2.map List.toArray).toArray
    accepting := (r.1.map (·.accepting)).toArray }

end Nfa

namespace Discovery

variable {limits : CompileLimits} {nfa : Nfa} {d : Discovery} {S : StateSet} {seeds : List StateId}
  {found : List StateSet}

/-- The sets that have been found, none of which is dead. -/
structure Holds (nfa : Nfa) (d : Discovery) (found : List StateSet) : Prop where
  sound : d.Sound nfa
  sets : d.sets.toList = found
  alive : ∀ S ∈ found, ¬ S.isDead

theorem Holds.getElem? (h : Holds nfa d found) (i : ℕ) : d.sets[i]? = found[i]? := by
  rw [← h.sets, Array.getElem?_toList]

/-- The numbers that are kept are the places at which the sets stand. -/
theorem Holds.findIdx? (h : Holds nfa d found) (S : StateSet) :
    found.findIdx? (· = S) = d.numbers[S]? := by
  cases hi : found.findIdx? (· = S) with
  | some i =>
    obtain ⟨hlt, hget, -⟩ := List.findIdx?_eq_some_iff_getElem.mp hi
    refine ((h.sound.numbers S i).mpr ?_).symm
    rw [h.getElem?, List.getElem?_eq_getElem hlt, of_decide_eq_true hget]
  | none =>
    refine (Option.eq_none_iff_forall_ne_some.mpr fun i hn => ?_).symm
    have hget := (h.sound.numbers S i).mp hn
    rw [h.getElem?] at hget
    simpa using List.findIdx?_eq_none_iff.mp hi S (List.mem_of_getElem? hget)

theorem number_inStep (limits : CompileLimits) (h : Holds nfa d found) (hS : ¬ S.isDead) :
    InStep (fun _ => False) (fun a b => some a.1 = b.1 ∧ Holds nfa a.2 b.2) (d.number limits S)
      (Numbering.number limits.dfaStates found (some S)) := by
  have hsize : d.sets.size = found.length := by rw [← h.sets, Array.length_toList]
  unfold number
  simp only [Numbering.number, h.findIdx? S, hsize]
  cases hn : d.numbers[S]? with
  | some i => exact .ok ⟨rfl, h⟩
  | none =>
    dsimp only
    split
    · exact .error _
    · refine .ok ⟨rfl, hsize ▸ h.sound.push hn, by simp [h.sets], fun T hT => ?_⟩
      rcases List.mem_append.mp hT with hT | hT
      · exact h.alive T hT
      · exact List.mem_singleton.mp hT ▸ hS

theorem resolve_inStep (h : Holds nfa d found) :
    InStep (fun _ => False) (fun a b => a.1 = b.1 ∧ Holds nfa a.2 b.2) (d.resolve limits nfa seeds)
      (Numbering.number limits.dfaStates found (nfa.close? seeds false)) := by
  obtain ⟨hcl, hb, hsz⟩ := nfa.closure_closes h.sound.bounded h.sound.size seeds false
  rw [Nfa.close?_eq hcl]
  simp only [resolve]
  generalize nfa.closure d.marks seeds false = r at *
  obtain ⟨T, m⟩ := r
  have hmark : Holds nfa { d with marks := m } found := ⟨h.sound.mark hb hsz, h.sets, h.alive⟩
  dsimp only
  split
  · rename_i hdead
    have ht : nfa.Targets d.sets seeds none := ⟨T, hcl, hdead⟩
    exact .ok ⟨rfl, hmark.sound.learn ht, h.sets, h.alive⟩
  · rename_i hdead
    have hnumber := (number_inStep limits hmark hdead).strengthen
      fun a ha => (number_grows ha hmark.sound).2
    generalize Discovery.number limits _ T = x at *
    generalize Numbering.number limits.dfaStates found (some T) = y at *
    cases hnumber with
    | refused he => exact he.elim
    | error e => exact .error e
    | ok hab =>
      obtain ⟨⟨heq, hd⟩, hget⟩ := hab
      exact .ok ⟨heq, hd.sound.learn ⟨T, hcl, hget⟩, hd.sets, hd.alive⟩

/-- What is remembered of seeds is what their closure gives. -/
theorem target_inStep (limits : CompileLimits) (S : StateSet) (b : UInt8) (h : Holds nfa d found) :
    InStep (fun _ => False) (fun a b => a.1 = b.1 ∧ Holds nfa a.2 b.2) (target limits nfa S d b)
      (Numbering.number limits.dfaStates found (nfa.close? (nfa.step S b) false)) := by
  unfold target
  split
  · rename_i hnil
    obtain ⟨T, hcl⟩ := nfa.exists_closes [] false
    rw [hnil, Nfa.close?_eq hcl, if_pos hcl.isDead_nil]
    exact .ok ⟨rfl, h⟩
  · split
    · rename_i t hk
      obtain ⟨T, hT, ht⟩ := h.sound.known _ _ hk
      rw [Nfa.close?_eq hT]
      cases t with
      | none =>
        rw [if_pos ht]
        exact .ok ⟨rfl, h⟩
      | some i =>
        have hget : d.sets[i]? = some T := ht
        have hmem : T ∈ found := List.mem_of_getElem? ((h.getElem? i).symm.trans hget)
        rw [if_neg (h.alive T hmem), Numbering.number, h.findIdx?, (h.sound.numbers T i).mpr hget]
        exact .ok ⟨rfl, h⟩
    · exact resolve_inStep h

private theorem foldlM_inStep {bytes : List UInt8} {row : Array (Option StateId)} (h : Holds nfa d found) :
    InStep (fun _ => False)
      (fun a b => a.1.toList = row.toList ++ b.1 ∧ Holds nfa a.2 b.2 ∧ a.2.rows = d.rows)
      (bytes.foldlM (fun (row, d) b => do
        let (t, d) ← target limits nfa S d b
        return (row.push t, d)) (row, d))
      (Numbering.numberAll limits.dfaStates found (bytes.map fun b => nfa.close? (nfa.step S b) false)) := by
  induction bytes generalizing row d found with
  | nil => exact .ok ⟨by simp, h, rfl⟩
  | cons b bytes ih =>
    have htarget := (target_inStep limits S b h).strengthen
      fun a ha => (target_grows ha h.sound).1.rows
    rw [List.foldlM_cons, bind_assoc]
    refine htarget.bind fun a c _ hac => ?_
    obtain ⟨⟨hfst, hd⟩, hrows⟩ := hac
    rw [pure_bind, ← bind_pure (List.foldlM _ _ bytes)]
    refine (ih hd).bind fun e f _ hef => .ok ⟨?_, hef.2.1, hef.2.2.trans hrows⟩
    rw [hef.1, hfst, Array.toList_push, List.append_assoc, List.singleton_append]

theorem expand_inStep (h : Holds nfa d found) :
    InStep (fun _ => False) (fun a b => a.rows = d.rows.push b.1.toArray ∧ Holds nfa a b.2)
      (expand limits nfa (ByteClasses.ofNfa nfa).representatives S d)
      (Numbering.numberAll limits.dfaStates found (nfa.targets S)) := by
  unfold expand Nfa.targets
  rw [← Array.foldlM_toList, ← bind_pure (Numbering.numberAll _ _ _)]
  refine (foldlM_inStep h).bind fun a b _ hab => .ok ⟨?_, ?_, hab.2.1.sets, hab.2.1.alive⟩
  · have : a.1 = b.1.toArray := Array.toList_inj.mp (by simpa using hab.1)
    rw [this, hab.2.2]
  · have := hab.2.1.sound
    exact ⟨this.bounded, this.size, this.numbers, this.known⟩

/-- Sets are taken up in the order of their numbers, so that rows and sets of both searches agree. -/
theorem run_inStep {fuel current : ℕ} (h : Holds nfa d found) :
    InStep (fun _ => False)
      (fun a b => a.rows.toList = d.rows.toList ++ b.2.map List.toArray ∧ a.sets.toList = b.1)
      (run limits nfa (ByteClasses.ofNfa nfa).representatives fuel current d)
      (Numbering.search limits.dfaStates nfa.targets fuel current found) := by
  induction fuel generalizing current d found with
  | zero => exact .ok ⟨by simp, h.sets⟩
  | succ fuel ih =>
    cases hx : found[current]? with
    | none =>
      rw [Numbering.search_of_length_le (List.getElem?_eq_none_iff.mp hx)]
      unfold run
      rw [h.getElem?, hx]
      exact .ok ⟨by simp, h.sets⟩
    | some S =>
      rw [Numbering.search_succ hx]
      unfold run
      rw [h.getElem?, hx]
      refine (expand_inStep h).bind fun a b _ hab => ?_
      rw [← bind_pure (run _ _ _ _ _ _)]
      refine (ih hab.2).bind fun e f _ hef => .ok ⟨?_, hef.2⟩
      rw [hef.1, hab.1, Array.toList_push, List.map_cons, List.append_assoc, List.singleton_append]

theorem holds_initial {start : StateSet} {m : Marks} (hm : m.Bounded) (hsize : m.stamps.size = 2 * nfa.states.size)
    (hdead : ¬ start.isDead) :
    Holds nfa { sets := #[start], numbers := {(start, 0)}, known := ∅, rows := #[], marks := m } [start] := by
  have hfilled : Filled {} nfa #[] start 0 _ := filled_initial hm hsize
  exact ⟨hfilled.sound, rfl, fun S hS => List.mem_singleton.mp hS ▸ hdead⟩

/-- A search from one set finds sets that can be reached from it, and each of them once. -/
theorem Holds.sighted {found : Discovery} {start : StateSet} (h : Holds nfa d [start])
    (hrun : run limits nfa (ByteClasses.ofNfa nfa).representatives (max limits.dfaStates 1) 0 d = .ok found) :
    Numbering.Sighted limits.dfaStates nfa.targets start found.sets.toList := by
  have hstep : InStep _ _ (run limits nfa _ (max limits.dfaStates 1) 0 d) _ := run_inStep h
  rw [hrun] at hstep
  obtain ⟨⟨sets, rows⟩, hsearch, -, rfl⟩ := hstep.exists_ok
  exact (Numbering.search_sighted Numbering.sighted_singleton (by simp [Numbering.Settled]) (Nat.add_zero _)
    hsearch).1

end Discovery

/-- The subset construction is a search among the sets that follow each other. -/
theorem determinize_eq (limits : CompileLimits) (nfa : Nfa) : determinize limits nfa =
    match nfa.close? [nfa.start] true with
    | none => .error .matchesNothing
    | some S => do
      return nfa.tabulate (← Numbering.search limits.dfaStates nfa.targets (max limits.dfaStates 1) 0 [S]) := by
  obtain ⟨hcl, hb, hsz⟩ := nfa.closure_closes (Marks.bounded_none _) (Marks.size_none _) [nfa.start] true
  rw [Nfa.close?_eq hcl]
  simp only [determinize]
  generalize nfa.closure (.none (2 * nfa.states.size)) [nfa.start] true = r at *
  obtain ⟨start, m⟩ := r
  dsimp only at hb hsz ⊢
  split
  · rfl
  · rename_i hdead
    refine (InStep.eq (P := fun _ => False) ?_ fun _ _ => id).symm
    refine (Discovery.run_inStep (Discovery.holds_initial hb hsz hdead)).bind fun d r _ hdr => .ok ?_
    have hrows : d.rows = (r.2.map List.toArray).toArray := Array.toList_inj.mp (by simpa using hdr.1)
    have hsets : d.sets = r.1.toArray := Array.toList_inj.mp hdr.2
    rw [hrows, hsets, Nfa.tabulate, List.map_toArray]

end ConstrainedDecoding.Automaton
