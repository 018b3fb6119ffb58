import ConstrainedDecoding.Proofs.Automaton.ByteClasses
import ConstrainedDecoding.Proofs.Automaton.Closure
import ConstrainedDecoding.Proofs.Except
import Mathlib.Data.List.Forall2

/-! The subset construction. Whatever order sets are found in, a row of the table leads from a set to the
closures of what follows its states. -/
namespace ConstrainedDecoding.Automaton

variable {limits : CompileLimits} {nfa : Nfa}

/-- The target of some seeds: the number of the set that closes them, or a dead end if that set is
dead. -/
def Nfa.Targets (nfa : Nfa) (sets : Array StateSet) (seeds : List StateId) (t : Option StateId) :
    Prop :=
  ∃ S, nfa.Closes seeds false S ∧
    match t with
    | none => S.isDead
    | some i => sets[i]? = some S

namespace Discovery

structure Sound (nfa : Nfa) (d : Discovery) : Prop where
  bounded : d.marks.Bounded
  size : d.marks.stamps.size = 2 * nfa.states.size
  numbers : ∀ (S : StateSet) (i : ℕ), d.numbers[S]? = some i ↔ d.sets[i]? = some S
  known : ∀ (seeds : List StateId) (t : Option StateId), d.known[seeds]? = some t → nfa.Targets d.sets seeds t

structure Grows (limits : CompileLimits) (nfa : Nfa) (d d' : Discovery) : Prop where
  sets : ∀ {i : ℕ} {S : StateSet}, d.sets[i]? = some S → d'.sets[i]? = some S
  rows : d'.rows = d.rows
  size : d.sets.size ≤ max limits.dfaStates 1 → d'.sets.size ≤ max limits.dfaStates 1
  sound : d'.Sound nfa

variable {d d' d'' : Discovery} {S : StateSet} {seeds : List StateId} {t : Option StateId}

theorem Grows.refl (hd : d.Sound nfa) : Grows limits nfa d d := ⟨id, rfl, id, hd⟩

theorem Grows.trans (h : Grows limits nfa d d') (h' : Grows limits nfa d' d'') :
    Grows limits nfa d d'' :=
  ⟨fun hs => h'.sets (h.sets hs), h'.rows.trans h.rows, fun hn => h'.size (h.size hn), h'.sound⟩

theorem targets_mono {sets sets' : Array StateSet}
    (h : ∀ {i : ℕ} {S : StateSet}, sets[i]? = some S → sets'[i]? = some S)
    (ht : nfa.Targets sets seeds t) : nfa.Targets sets' seeds t := by
  obtain ⟨S, hS, ht⟩ := ht
  cases t with
  | none => exact ⟨S, hS, ht⟩
  | some i => exact ⟨S, hS, h ht⟩

private theorem getElem?_push_of_some {α : Type} {xs : Array α} {x y : α} {i : ℕ}
    (h : xs[i]? = some y) : (xs.push x)[i]? = some y := by
  have hi := (Array.getElem?_eq_some_iff.mp h).1
  rwa [Array.getElem?_push_lt hi, ← Array.getElem?_eq_getElem hi]

theorem Sound.push (hd : d.Sound nfa) (hS : d.numbers[S]? = none) :
    { d with sets := d.sets.push S, numbers := d.numbers.insert S d.sets.size }.Sound nfa := by
  refine ⟨hd.bounded, hd.size, fun T i => ?_,
    fun seeds t ht => targets_mono getElem?_push_of_some (hd.known seeds t ht)⟩
  have hT := hd.numbers T i
  have hnew : d.sets[i]? ≠ some S := fun h => by simp [(hd.numbers S i).mpr h] at hS
  have hend : d.sets[d.sets.size]? = none := Array.getElem?_eq_none le_rfl
  simp only [Std.HashMap.getElem?_insert, Array.getElem?_push]
  by_cases hST : S = T
  · subst hST
    by_cases hi : i = d.sets.size
    · simp [hi]
    · simp [hi, hnew, Ne.symm hi]
  · by_cases hi : i = d.sets.size
    · subst hi
      simpa [hST, hend] using hT
    · simpa [hST, hi] using hT

theorem number_grows {i : StateId} (h : d.number limits S = .ok (i, d')) (hd : d.Sound nfa) :
    Grows limits nfa d d' ∧ d'.sets[i]? = some S := by
  unfold number at h
  split at h
  · rename_i j hj
    cases h
    exact ⟨.refl hd, (hd.numbers S i).mp hj⟩
  · rename_i hnew
    split at h
    · simp at h
    · cases h
      refine ⟨⟨getElem?_push_of_some, rfl, fun _ => ?_, hd.push hnew⟩, by simp⟩
      rw [Array.size_push]
      omega

theorem Sound.mark (hd : d.Sound nfa) {m : Marks} (hm : m.Bounded)
    (hsize : m.stamps.size = 2 * nfa.states.size) : { d with marks := m }.Sound nfa :=
  ⟨hm, hsize, hd.numbers, hd.known⟩

theorem Sound.learn (hd : d.Sound nfa) (ht : nfa.Targets d.sets seeds t) :
    { d with known := d.known.insert seeds t }.Sound nfa := by
  refine ⟨hd.bounded, hd.size, hd.numbers, fun seeds' t' h => ?_⟩
  rw [Std.HashMap.getElem?_insert] at h
  split at h
  · obtain rfl := beq_iff_eq.mp ‹_›
    obtain rfl := Option.some.inj h
    exact ht
  · exact hd.known seeds' t' h

theorem resolve_grows (h : d.resolve limits nfa seeds = .ok (t, d')) (hd : d.Sound nfa) :
    Grows limits nfa d d' ∧ nfa.Targets d'.sets seeds t := by
  obtain ⟨hcl, hb, hsz⟩ := nfa.closure_closes hd.bounded hd.size seeds false
  have hmark := hd.mark hb hsz
  simp only [resolve] at h
  generalize nfa.closure d.marks seeds false = r at *
  obtain ⟨S, m⟩ := r
  split at h
  · rename_i hdead
    cases h
    have ht : nfa.Targets d.sets seeds none := ⟨S, hcl, hdead⟩
    exact ⟨⟨id, rfl, id, hmark.learn ht⟩, ht⟩
  · simp only [bind_eq_ok_iff, map_eq_ok_iff, pure_eq_ok_iff, Prod.exists, Prod.mk.injEq] at h
    obtain ⟨_, _, ⟨i, d₁, hi, rfl, rfl⟩, rfl, rfl⟩ := h
    obtain ⟨hgrow, hget⟩ := number_grows hi hmark
    have ht : nfa.Targets d₁.sets seeds (some i) := ⟨S, hcl, hget⟩
    exact ⟨⟨hgrow.sets, hgrow.rows, hgrow.size, hgrow.sound.learn ht⟩, ht⟩

theorem target_grows {b : UInt8} (h : target limits nfa S d b = .ok (t, d'))
    (hd : d.Sound nfa) : Grows limits nfa d d' ∧ nfa.Targets d'.sets (nfa.step S b) t := by
  unfold target at h
  split at h
  · rename_i hnil
    cases h
    obtain ⟨hcl, -⟩ := nfa.closure_closes hd.bounded hd.size [] false
    exact ⟨.refl hd, _, hnil ▸ hcl, hcl.isDead_nil⟩
  · split at h
    · rename_i hk
      cases h
      exact ⟨.refl hd, hd.known _ _ hk⟩
    · exact resolve_grows h hd

def IsRow (nfa : Nfa) (sets : Array StateSet) (S : StateSet) (bytes : List UInt8)
    (row : List (Option StateId)) : Prop :=
  List.Forall₂ (fun b t => nfa.Targets sets (nfa.step S b) t) bytes row

theorem IsRow.mono {sets sets' : Array StateSet} {bytes : List UInt8} {row : List (Option StateId)}
    (h : ∀ {i : ℕ} {S : StateSet}, sets[i]? = some S → sets'[i]? = some S)
    (hr : IsRow nfa sets S bytes row) : IsRow nfa sets' S bytes row :=
  hr.imp fun _ _ ht => targets_mono h ht

theorem IsRow.exists_getElem? {sets : Array StateSet} {bytes : List UInt8} {row : List (Option StateId)}
    (hr : IsRow nfa sets S bytes row) {c : ℕ} {b : UInt8} (hb : bytes[c]? = some b) :
    ∃ t, row[c]? = some t ∧ nfa.Targets sets (nfa.step S b) t := by
  obtain ⟨hlen, hget⟩ := List.forall₂_iff_get.mp hr
  obtain ⟨hc, rfl⟩ := List.getElem?_eq_some_iff.mp hb
  exact ⟨row[c], List.getElem?_eq_getElem (hlen ▸ hc), hget c hc (hlen ▸ hc)⟩

private theorem foldlM_grows {bytes : List UInt8} {row row' : Array (Option StateId)}
    (h : bytes.foldlM (fun (row, d) b => do
      let (t, d) ← target limits nfa S d b
      return (row.push t, d)) (row, d) = .ok (row', d')) (hd : d.Sound nfa) :
    Grows limits nfa d d' ∧
      ∃ ts, row'.toList = row.toList ++ ts ∧ IsRow nfa d'.sets S bytes ts := by
  induction bytes generalizing row d with
  | nil =>
    obtain ⟨rfl, rfl⟩ := Prod.mk.inj (pure_eq_ok_iff.mp h)
    exact ⟨.refl hd, [], by simp, .nil⟩
  | cons b bytes ih =>
    simp only [List.foldlM_cons, bind_eq_ok_iff, pure_eq_ok_iff, Prod.exists] at h
    obtain ⟨_, _, ⟨t, d₁, ht, hrow⟩, h⟩ := h
    obtain ⟨rfl, rfl⟩ := Prod.mk.inj hrow
    obtain ⟨hgrow, htarget⟩ := target_grows ht hd
    obtain ⟨hgrow', ts, hts, hrow⟩ := ih h hgrow.sound
    refine ⟨hgrow.trans hgrow', t :: ts, by simp [hts], .cons ?_ hrow⟩
    exact targets_mono hgrow'.sets htarget

theorem expand_grows {reps : Array UInt8} (h : expand limits nfa reps S d = .ok d')
    (hd : d.Sound nfa) :
    ∃ row, d'.rows = d.rows.push row ∧ IsRow nfa d'.sets S reps.toList row.toList ∧
      Grows limits nfa { d with rows := d'.rows } d' := by
  simp only [expand, bind_eq_ok_iff, pure_eq_ok_iff, Prod.exists, ← Array.foldlM_toList] at h
  obtain ⟨row, d₁, h, rfl⟩ := h
  obtain ⟨hgrow, ts, hts, hrow⟩ := foldlM_grows h hd
  obtain rfl : row.toList = ts := by simpa using hts
  exact ⟨row, by rw [hgrow.rows], hrow, hgrow.sets, rfl, hgrow.size,
    ⟨hgrow.sound.bounded, hgrow.sound.size, hgrow.sound.numbers, hgrow.sound.known⟩⟩

structure Filled (limits : CompileLimits) (nfa : Nfa) (reps : Array UInt8) (start : StateSet)
    (current : ℕ) (d : Discovery) : Prop where
  sound : d.Sound nfa
  first : d.sets[0]? = some start
  size : d.sets.size ≤ max limits.dfaStates 1
  count : d.rows.size = current
  le : current ≤ d.sets.size
  filled : ∀ k S, d.sets[k]? = some S → k < current →
    ∃ row, d.rows[k]? = some row ∧ IsRow nfa d.sets S reps.toList row.toList

theorem Filled.expand {reps : Array UInt8} {start : StateSet} {current : ℕ}
    (hf : Filled limits nfa reps start current d) (hS : d.sets[current]? = some S)
    (h : expand limits nfa reps S d = .ok d') :
    Filled limits nfa reps start (current + 1) d' := by
  obtain ⟨row, hrows, hrow, hgrow⟩ := expand_grows h hf.sound
  have hS' := hgrow.sets hS
  refine ⟨hgrow.sound, hgrow.sets hf.first, hgrow.size hf.size, ?_, ?_, fun k T hT hk => ?_⟩
  · rw [hrows, Array.size_push, hf.count]
  · exact (Array.getElem?_eq_some_iff.mp hS').1
  · rcases Nat.lt_succ_iff_lt_or_eq.mp hk with hk | rfl
    · have hlt : k < d.sets.size := hk.trans_le hf.le
      have hT' : d.sets[k]? = some T := by
        have := hgrow.sets (Array.getElem?_eq_getElem hlt)
        rw [Array.getElem?_eq_getElem hlt, ← hT, this]
      obtain ⟨row', hrow', hr⟩ := hf.filled k T hT' hk
      exact ⟨row', by rw [hrows]; exact getElem?_push_of_some hrow', hr.mono hgrow.sets⟩
    · obtain rfl := Option.some.inj (hS'.symm.trans hT)
      exact ⟨row, by rw [hrows, ← hf.count]; simp, hrow⟩

/-- All sets have their rows in the end; there are never more sets than the fuel allows for. -/
theorem run_filled {reps : Array UInt8} {start : StateSet} {fuel current : ℕ}
    (hf : Filled limits nfa reps start current d) (hfuel : fuel + current = max limits.dfaStates 1)
    (h : run limits nfa reps fuel current d = .ok d') :
    Filled limits nfa reps start d'.sets.size d' := by
  induction fuel generalizing current d with
  | zero =>
    obtain rfl := Except.ok.inj h
    have : current = d.sets.size := le_antisymm hf.le (by have := hf.size; omega)
    exact this ▸ hf
  | succ fuel ih =>
    unfold run at h
    split at h
    · rename_i S hfuel' hS
      obtain rfl := Nat.succ.inj hfuel'
      simp only [bind_eq_ok_iff] at h
      obtain ⟨d₁, hexp, h⟩ := h
      exact ih (hf.expand hS hexp) (by omega) h
    · rename_i hnone
      obtain rfl := Except.ok.inj h
      have hend : d.sets.size ≤ current := by
        by_contra hlt
        exact hnone fuel _ rfl (Array.getElem?_eq_getElem (not_le.mp hlt))
      have : current = d.sets.size := le_antisymm hf.le hend
      exact this ▸ hf

end Discovery

/-- The states of a deterministic automaton stand for sets of states of a nondeterministic one. -/
structure Simulates (d : Dfa) (nfa : Nfa) (sets : Array StateSet) : Prop where
  accepting : d.accepting = sets.map (·.accepting)
  rows : d.rows.size = sets.size
  start : ∃ S, sets[0]? = some S ∧ nfa.Closes [nfa.start] true S
  next : ∀ {k : ℕ} {S : StateSet}, sets[k]? = some S → ∀ b, nfa.Targets sets (nfa.step S b) (d.next? k b)

theorem step_eq_of_get_eq {a b : UInt8}
    (h : (ByteClasses.ofNfa nfa).get a = (ByteClasses.ofNfa nfa).get b) (S : StateSet) :
    nfa.step S a = nfa.step S b := by
  unfold Nfa.step
  refine List.filterMap_congr fun s _ => ?_
  cases hs : nfa.states[s]? with
  | none => rfl
  | some q =>
    cases q with
    | range lo hi next =>
      have := ByteClasses.range_iff_of_get_eq h (Array.mem_of_getElem? hs)
      simp only [Bool.and_eq_true, decide_eq_true_eq, this]
    | _ => rfl

theorem filled_initial {reps : Array UInt8} {start : StateSet} {m : Marks} (hm : m.Bounded)
    (hsize : m.stamps.size = 2 * nfa.states.size) :
    Discovery.Filled limits nfa reps start 0
      { sets := #[start], numbers := {(start, 0)}, known := ∅, rows := #[], marks := m } := by
  refine ⟨⟨hm, hsize, fun S i => ?_, by simp⟩, rfl, by simp, rfl, by simp, by simp⟩
  have hnumbers : ({(start, 0)} : Std.HashMap StateSet StateId)[S]? =
      if start == S then some 0 else none := by
    simp only [Std.HashMap.singleton_eq_insert, Std.HashMap.getElem?_insert,
      Std.HashMap.getElem?_empty]
  rw [hnumbers]
  cases i with
  | zero => by_cases hS : start = S <;> simp [hS]
  | succ i => simp

theorem StateSet.not_accepts_of_isDead {S : StateSet} (h : S.isDead) {w : List UInt8} {i : ℕ} :
    ¬ S.Accepts nfa w i := by
  simp only [StateSet.isDead, Bool.and_eq_true, List.isEmpty_iff, Bool.not_eq_true'] at h
  rintro (⟨-, ha⟩ | ⟨b, -, t, ht, -⟩)
  · simp [h.2] at ha
  · obtain ⟨s, hs, -⟩ := Nfa.mem_step.mp ht
    simp [h.1] at hs

/-- The construction is a search from the closure of the start, which is not dead. -/
theorem exists_run_of_determinize {d : Dfa} (h : determinize limits nfa = .ok d) :
    ∃ start m found, nfa.Closes [nfa.start] true start ∧ ¬ start.isDead ∧ m.Bounded ∧
      m.stamps.size = 2 * nfa.states.size ∧
      Discovery.run limits nfa (ByteClasses.ofNfa nfa).representatives (max limits.dfaStates 1) 0
        { sets := #[start], numbers := {(start, 0)}, known := ∅, rows := #[], marks := m } = .ok found ∧
      d = { classes := .ofNfa nfa, rows := found.rows, accepting := found.sets.map (·.accepting) } := by
  obtain ⟨hcl, hb, hsz⟩ := nfa.closure_closes (Marks.bounded_none _) (Marks.size_none _) [nfa.start] true
  simp only [determinize] at h
  generalize nfa.closure (.none (2 * nfa.states.size)) [nfa.start] true = r at *
  obtain ⟨start, m⟩ := r
  split at h
  · simp [bind, Except.bind] at h
  · rename_i hdead
    simp only [bind_eq_ok_iff, pure_eq_ok_iff] at h
    obtain ⟨found, hrun, rfl⟩ := h
    exact ⟨start, m, found, hcl, hdead, hb, hsz, hrun, rfl⟩

theorem determinize_eq_ok {d : Dfa} (h : determinize limits nfa = .ok d) :
    ∃ start found, nfa.Closes [nfa.start] true start ∧
      Discovery.Filled limits nfa (ByteClasses.ofNfa nfa).representatives start found.sets.size found ∧
      d = { classes := .ofNfa nfa, rows := found.rows, accepting := found.sets.map (·.accepting) } := by
  obtain ⟨start, m, found, hcl, -, hb, hsz, hrun, rfl⟩ := exists_run_of_determinize h
  exact ⟨start, found, hcl, Discovery.run_filled (filled_initial hb hsz) (Nat.add_zero _) hrun, rfl⟩

/-- The entry of a row for a byte is its entry for the representative of the class of the byte. -/
theorem Discovery.Filled.simulates {start : StateSet} {found : Discovery} (hcl : nfa.Closes [nfa.start] true start)
    (hf : Filled limits nfa (ByteClasses.ofNfa nfa).representatives start found.sets.size found) :
    Simulates ⟨.ofNfa nfa, found.rows, found.sets.map (·.accepting)⟩ nfa found.sets := by
  refine ⟨rfl, hf.count, ⟨start, hf.first, hcl⟩, fun {k S} hS b => ?_⟩
  obtain ⟨row, hrow, hr⟩ := hf.filled k S hS (Array.getElem?_eq_some_iff.mp hS).1
  obtain ⟨rep, hrep, hget, -⟩ := ByteClasses.exists_representative nfa b
  rw [← Array.getElem?_toList] at hrep
  obtain ⟨t, ht, htarget⟩ := hr.exists_getElem? hrep
  have hnext : Dfa.next? ⟨.ofNfa nfa, found.rows, found.sets.map (·.accepting)⟩ k b = t := by
    rw [Array.getElem?_toList] at ht
    simp [Dfa.next?, Dfa.row, Array.getD_eq_getD_getElem?, hrow, ht]
  rw [hnext, ← step_eq_of_get_eq hget]
  exact htarget

theorem determinize_simulates {d : Dfa} (h : determinize limits nfa = .ok d) :
    ∃ sets, Simulates d nfa sets := by
  obtain ⟨start, found, hcl, hf, rfl⟩ := determinize_eq_ok h
  exact ⟨found.sets, hf.simulates hcl⟩

namespace Discovery

variable {d : Discovery} {S : StateSet}

/-- A search fails only because there are too many sets. -/
def Outgrows (limits : CompileLimits) (e : Error) : Prop := e = .tooComplex .dfaStates limits.dfaStates

theorem number_outgrows : FailsWith (Outgrows limits) (d.number limits S) := by
  unfold number
  split
  · exact .ok
  · split
    · exact .error rfl
    · exact .ok

theorem resolve_outgrows {seeds : List StateId} :
    FailsWith (Outgrows limits) (d.resolve limits nfa seeds) := by
  simp only [resolve]
  split
  · exact .bind .ok fun _ _ => .ok
  · exact .bind number_outgrows.map fun _ _ => .ok

theorem target_outgrows {b : UInt8} : FailsWith (Outgrows limits) (target limits nfa S d b) := by
  unfold target
  split
  · exact .ok
  · split
    · exact .ok
    · exact resolve_outgrows

theorem expand_outgrows {reps : Array UInt8} :
    FailsWith (Outgrows limits) (expand limits nfa reps S d) := by
  unfold expand
  rw [← Array.foldlM_toList]
  exact .bind (.foldlM (fun _ _ => target_outgrows.bind fun _ _ => .ok) _ _) fun _ _ => .ok

theorem run_outgrows {reps : Array UInt8} {fuel current : ℕ} :
    FailsWith (Outgrows limits) (run limits nfa reps fuel current d) := by
  induction fuel generalizing current d with
  | zero => exact .ok
  | succ fuel ih =>
    unfold run
    split
    · rename_i hfuel _
      obtain rfl := Nat.succ.inj hfuel
      exact expand_outgrows.bind fun _ _ => ih
    · exact .ok

end Discovery

/-- Without too many sets, the construction fails only if nothing is accepted. -/
theorem determinize_failsWith : FailsWith
    (fun e => Discovery.Outgrows limits e ∨ ∀ w, ¬ nfa.Accepts w nfa.start 0)
    (determinize limits nfa) := by
  obtain ⟨hcl, -⟩ := nfa.closure_closes (Marks.bounded_none _) (Marks.size_none _) [nfa.start] true
  simp only [determinize]
  generalize nfa.closure (.none (2 * nfa.states.size)) [nfa.start] true = r at *
  obtain ⟨start, m⟩ := r
  split
  · rename_i hdead
    have hclose : nfa.Closes [nfa.start] (0 == 0) start := hcl
    refine .bind (.error (.inr fun w hw => ?_)) nofun
    exact StateSet.not_accepts_of_isDead hdead
      (hclose.accepts_iff.mp ⟨_, List.mem_singleton_self _, hw⟩)
  · exact .bind (fun e he => .inl (Discovery.run_outgrows e he)) fun _ _ => .ok

namespace Simulates

variable {d : Dfa} {sets : Array StateSet}

theorem isAccepting_eq (h : Simulates d nfa sets) {k : ℕ} {S : StateSet} (hS : sets[k]? = some S) :
    d.isAccepting k = S.accepting := by
  simp [Dfa.isAccepting, h.accepting, Array.getD_eq_getD_getElem?, hS]

theorem size_rows (h : Simulates d nfa sets) : d.rows.size = d.size := by
  rw [h.rows, Dfa.size, h.accepting, Array.size_map]

/-- The deterministic automaton accepts the rest of a text from a state if the set of the state does. -/
theorem walk_iff (h : Simulates d nfa sets) {w bs : List UInt8} {k i : ℕ} {S : StateSet}
    (hS : sets[k]? = some S) (hi : i + bs.length = w.length) (hw : w.drop i = bs) :
    (d.walk? k bs).any d.isAccepting ↔ S.Accepts nfa w i := by
  induction bs generalizing k i S with
  | nil =>
    have hend : w[i]? = none := List.getElem?_eq_none (by simpa using hi.ge)
    simp only [Dfa.walk?, List.foldlM_nil, Option.pure_def, Option.any_some, h.isAccepting_eq hS]
    simpa [StateSet.Accepts, hend] using fun _ => hi
  | cons b bs ih =>
    have hb : w[i]? = some b := by
      rw [← List.head?_drop, hw, List.head?_cons]
    have hrest : w.drop (i + 1) = bs := by
      rw [← List.tail_drop, hw, List.tail_cons]
    have hlt : i ≠ w.length := by simp at hi; omega
    have haccepts : S.Accepts nfa w i ↔ ∃ t ∈ nfa.step S b, nfa.Accepts w t (i + 1) := by
      simp [StateSet.Accepts, hb, hlt]
    obtain ⟨T, hT, ht⟩ := h.next hS b
    have hclose : nfa.Closes (nfa.step S b) (i + 1 == 0) T := hT
    rw [haccepts, hclose.accepts_iff]
    cases hn : d.next? k b with
    | none =>
      rw [hn] at ht
      simp [Dfa.walk?, hn, StateSet.not_accepts_of_isDead ht]
    | some k' =>
      rw [hn] at ht
      have hi' : i + 1 + bs.length = w.length := by simp at hi; omega
      rw [← ih ht hi' hrest]
      simp [Dfa.walk?, hn]

theorem accepts_iff (h : Simulates d nfa sets) (w : List UInt8) :
    d.accepts w ↔ nfa.Accepts w nfa.start 0 := by
  obtain ⟨S, hS, hclose⟩ := h.start
  have hclose : nfa.Closes [nfa.start] (0 == 0) S := hclose
  have hwalk := h.walk_iff hS (Nat.zero_add _) (List.drop_zero (l := w))
  rw [← hclose.accepts_iff] at hwalk
  simpa [Dfa.accepts, Dfa.start] using hwalk

end Simulates

end ConstrainedDecoding.Automaton
