import ConstrainedDecoding.Automaton.Dfa
import Mathlib.Data.Nat.Count
import Mathlib.Order.Monotone.Basic

/-! Bytes of one class are told apart by no range of the automaton. The class of a byte is the number
of boundaries before it. -/
namespace ConstrainedDecoding.Automaton.ByteClasses

/-- A range of some state begins after a byte or ends with it. -/
def IsBoundary (nfa : Nfa) (b : ℕ) : Prop :=
  ∃ lo hi next, NfaState.range lo hi next ∈ nfa.states ∧ (lo.toNat = b + 1 ∨ hi.toNat = b)

private def mark (marks : Array Bool) (state : NfaState) : Array Bool :=
  match state with
  | .range lo hi _ =>
    let marks := if 0 < lo then marks.setIfInBounds (lo.toNat - 1) true else marks
    marks.setIfInBounds hi.toNat true
  | _ => marks

private theorem getD_setIfInBounds (marks : Array Bool) (i b : ℕ) (hi : i < marks.size) :
    (marks.setIfInBounds i true).getD b false = (marks.getD b false || i == b) := by
  by_cases h : i = b
  · subst h
    simp [Array.getD_eq_getD_getElem?, hi]
  · simp [Array.getD_eq_getD_getElem?, h]

private theorem getD_mark {marks : Array Bool} (hm : marks.size = 256) (state : NfaState) (b : ℕ) :
    (mark marks state).getD b false ↔ marks.getD b false ∨
      ∃ lo hi next, state = .range lo hi next ∧ (lo.toNat = b + 1 ∨ hi.toNat = b) := by
  cases state with
  | range lo hi next =>
    have hlo := lo.toNat_lt
    have hhi := hi.toNat_lt
    have hpos : 0 < lo ↔ 0 < lo.toNat := UInt8.lt_iff_toNat_lt
    simp only [mark]
    split
    · rename_i h
      have := hpos.mp h
      rw [getD_setIfInBounds _ _ _ (by simp only [Array.size_setIfInBounds]; omega),
        getD_setIfInBounds _ _ _ (by omega)]
      simp only [Bool.or_eq_true, beq_iff_eq, NfaState.range.injEq]
      constructor
      · rintro ((h | h) | h)
        · exact .inl h
        · exact .inr ⟨lo, hi, next, ⟨rfl, rfl, rfl⟩, .inl (by omega)⟩
        · exact .inr ⟨lo, hi, next, ⟨rfl, rfl, rfl⟩, .inr h⟩
      · rintro (h | ⟨_, _, _, ⟨rfl, rfl, rfl⟩, h | h⟩)
        · exact .inl (.inl h)
        · exact .inl (.inr (by omega))
        · exact .inr h
    · rename_i h
      have := mt hpos.mpr h
      rw [getD_setIfInBounds _ _ _ (by omega)]
      simp only [Bool.or_eq_true, beq_iff_eq, NfaState.range.injEq]
      constructor
      · rintro (h | h)
        · exact .inl h
        · exact .inr ⟨lo, hi, next, ⟨rfl, rfl, rfl⟩, .inr h⟩
      · rintro (h | ⟨_, _, _, ⟨rfl, rfl, rfl⟩, h | h⟩)
        · exact .inl h
        · omega
        · exact .inr h
  | _ => simp [mark]

private theorem size_mark (marks : Array Bool) (state : NfaState) :
    (mark marks state).size = marks.size := by
  cases state with
  | range lo hi next => simp only [mark]; split <;> simp
  | _ => rfl

private theorem getD_foldl_mark (l : List NfaState) {marks : Array Bool} (hm : marks.size = 256) (b : ℕ) :
    (l.foldl mark marks).getD b false ↔ marks.getD b false ∨
      ∃ lo hi next, NfaState.range lo hi next ∈ l ∧ (lo.toNat = b + 1 ∨ hi.toNat = b) := by
  induction l generalizing marks with
  | nil => simp
  | cons state l ih =>
    rw [List.foldl_cons, ih ((size_mark marks state).trans hm), getD_mark hm]
    constructor
    · rintro ((h | ⟨lo, hi, next, rfl, h⟩) | ⟨lo, hi, next, hl, h⟩)
      · exact .inl h
      · exact .inr ⟨lo, hi, next, List.mem_cons_self, h⟩
      · exact .inr ⟨lo, hi, next, List.mem_cons_of_mem _ hl, h⟩
    · rintro (h | ⟨lo, hi, next, hl, h⟩)
      · exact .inl (.inl h)
      · rcases List.mem_cons.mp hl with hs | hl
        · exact .inl (.inr ⟨lo, hi, next, hs.symm, h⟩)
        · exact .inr ⟨lo, hi, next, hl, h⟩

theorem getD_boundaries (nfa : Nfa) (b : ℕ) :
    (boundaries nfa).getD b false ↔ IsBoundary nfa b := by
  have hb : boundaries nfa = nfa.states.toList.foldl mark (Array.replicate 256 false) := by
    rw [Array.foldl_toList]
    rfl
  rw [hb, getD_foldl_mark _ Array.size_replicate]
  have hnone : (Array.replicate 256 false).getD b false = false := by
    by_cases h : b < 256 <;> simp [Array.getD_eq_getD_getElem?, h]
  simp [hnone, IsBoundary]

def rank (bounds : Array Bool) (b : ℕ) : ℕ := Nat.count (fun i => bounds.getD i false = true) b

theorem rank_mono (bounds : Array Bool) : Monotone (rank bounds) := Nat.count_monotone _

theorem rank_succ (bounds : Array Bool) (b : ℕ) :
    rank bounds (b + 1) = rank bounds b + if bounds.getD b false = true then 1 else 0 :=
  Nat.count_succ _ b

/-- A byte has room for the rank of a byte. -/
theorem toNat_rank (bounds : Array Bool) {b : ℕ} (hb : b < 256) :
    (rank bounds b).toUInt8.toNat = rank bounds b :=
  Nat.mod_eq_of_lt ((Nat.count_le _).trans_lt hb)

theorem exists_rank_eq (bounds : Array Bool) {c k : ℕ} (hc : c ≤ rank bounds k) :
    ∃ b ≤ k, rank bounds b = c := by
  induction k with
  | zero =>
    have hzero : rank bounds 0 = 0 := Nat.count_zero _
    exact ⟨0, le_rfl, by omega⟩
  | succ k ih =>
    by_cases hk : c ≤ rank bounds k
    · obtain ⟨b, hb, hrank⟩ := ih hk
      exact ⟨b, Nat.le_succ_of_le hb, hrank⟩
    · refine ⟨k + 1, le_rfl, ?_⟩
      have hsucc := rank_succ bounds k
      split at hsucc <;> omega

theorem not_boundary_of_rank_eq {bounds : Array Bool} {a b i : ℕ} (h : rank bounds a = rank bounds b)
    (ha : a ≤ i) (hb : i < b) : bounds.getD i false = false := by
  have h₁ := rank_mono bounds ha
  have h₂ := rank_mono bounds hb
  rw [Nat.succ_eq_add_one, rank_succ] at h₂
  by_contra hi
  rw [if_pos (by simpa using hi)] at h₂
  omega

private theorem map_range_succ {α : Type} (f : ℕ → α) (k : ℕ) :
    (Array.range (k + 1)).map f = ((Array.range k).map f).push (f k) := by
  simp [Array.range_succ]

private theorem foldl_ofBoundaries (bounds : Array Bool) {k : ℕ} (hk : k < 256) :
    (List.range k).foldl (fun (classes, c) b =>
      (classes.push c.toUInt8, if bounds.getD b false && b < 255 then c + 1 else c)) (#[], 0) =
    ((Array.range k).map fun b => (rank bounds b).toUInt8, rank bounds k) := by
  induction k with
  | zero => simp [rank]
  | succ k ih =>
    have h255 : k < 255 := by omega
    rw [List.range_succ, List.foldl_append, ih (by omega)]
    simp only [List.foldl_cons, List.foldl_nil, map_range_succ, rank_succ, decide_eq_true h255,
      Bool.and_true]
    split <;> rfl

theorem classes_ofBoundaries (bounds : Array Bool) :
    (ofBoundaries bounds).classes = (Array.range 256).map fun b => (rank bounds b).toUInt8 := by
  unfold ofBoundaries
  rw [List.range_succ, List.foldl_append, foldl_ofBoundaries bounds (by decide)]
  simp only [List.foldl_cons, List.foldl_nil]
  exact (map_range_succ _ 255).symm

theorem count_ofBoundaries (bounds : Array Bool) :
    (ofBoundaries bounds).count = rank bounds 255 + 1 := by
  unfold ofBoundaries
  rw [List.range_succ, List.foldl_append, foldl_ofBoundaries bounds (by decide)]
  simp

theorem get_ofNfa (nfa : Nfa) (b : UInt8) : (ofNfa nfa).get b = rank (boundaries nfa) b.toNat := by
  have hb := b.toNat_lt
  rw [get, ofNfa, classes_ofBoundaries, ← toNat_rank _ hb]
  simp [Array.getD_eq_getD_getElem?, show b.toNat < 256 from hb]

theorem count_ofNfa (nfa : Nfa) : (ofNfa nfa).count = rank (boundaries nfa) 255 + 1 :=
  count_ofBoundaries _

theorem get_le_get (nfa : Nfa) {a b : UInt8} (h : a ≤ b) : (ofNfa nfa).get a ≤ (ofNfa nfa).get b := by
  rw [get_ofNfa, get_ofNfa]
  exact rank_mono _ (UInt8.le_iff_toNat_le.mp h)

theorem get_zero (nfa : Nfa) : (ofNfa nfa).get 0 = 0 := by
  rw [get_ofNfa, UInt8.toNat_zero]
  exact Nat.count_zero _

theorem get_lt_count (nfa : Nfa) (b : UInt8) : (ofNfa nfa).get b < (ofNfa nfa).count := by
  rw [get_ofNfa, count_ofNfa]
  exact Nat.lt_succ_of_le (rank_mono _ (Nat.le_of_lt_succ b.toNat_lt))

/-- Neighbours are told apart at the boundaries and nowhere else. -/
theorem get_ne_get_succ_iff {nfa : Nfa} {b : UInt8} (hb : b < 255) :
    (ofNfa nfa).get b ≠ (ofNfa nfa).get (b + 1) ↔ IsBoundary nfa b.toNat := by
  have hlt : b.toNat < 255 := UInt8.lt_iff_toNat_lt.mp hb
  have hsucc : (b + 1).toNat = b.toNat + 1 := by
    rw [UInt8.toNat_add, UInt8.toNat_one, Nat.mod_eq_of_lt (by omega)]
  rw [get_ofNfa, get_ofNfa, hsucc, rank_succ, ← getD_boundaries]
  split <;> simp [*]

/-- Where all bytes but the last are boundaries, nothing is lost of a rank. -/
private theorem rank_eq_self {nfa : Nfa} (h : ∀ b < 255, IsBoundary nfa b) {b : ℕ} (hb : b ≤ 255) :
    rank (boundaries nfa) b = b := by
  rw [rank, Nat.count_iff_forall]
  exact fun i hi => (getD_boundaries nfa i).mpr (h i (hi.trans_le hb))

theorem get_eq_toNat {nfa : Nfa} (h : ∀ b < 255, IsBoundary nfa b) (b : UInt8) :
    (ofNfa nfa).get b = b.toNat := by
  rw [get_ofNfa, rank_eq_self h (Nat.le_of_lt_succ b.toNat_lt)]

theorem count_eq_of_forall {nfa : Nfa} (h : ∀ b < 255, IsBoundary nfa b) : (ofNfa nfa).count = 256 := by
  rw [count_ofNfa, rank_eq_self h le_rfl]

theorem ofNfa_congr {nfa nfa' : Nfa} (h : ∀ b, IsBoundary nfa b ↔ IsBoundary nfa' b) : ofNfa nfa = ofNfa nfa' := by
  have hrank : rank (boundaries nfa) = rank (boundaries nfa') := by
    have hbounds (b : ℕ) : (boundaries nfa).getD b false = (boundaries nfa').getD b false := by
      rw [Bool.eq_iff_iff, getD_boundaries, getD_boundaries, h]
    funext b
    simp only [rank, hbounds]
  have hclasses : (ofNfa nfa).classes = (ofNfa nfa').classes := by
    rw [ofNfa, ofNfa, classes_ofBoundaries, classes_ofBoundaries, hrank]
  have hcount : (ofNfa nfa).count = (ofNfa nfa').count := by
    rw [count_ofNfa, count_ofNfa, hrank]
  generalize ofNfa nfa = c at *
  generalize ofNfa nfa' = c' at *
  cases c
  cases c'
  simp_all

private theorem le_of_get_eq {nfa : Nfa} {a b : UInt8} (h : (ofNfa nfa).get a = (ofNfa nfa).get b)
    {lo hi : UInt8} {next : StateId} (hs : NfaState.range lo hi next ∈ nfa.states) :
    (lo ≤ b → lo ≤ a) ∧ (a ≤ hi → b ≤ hi) := by
  rw [get_ofNfa, get_ofNfa] at h
  have hno : ∀ i, a.toNat ≤ i → i < b.toNat → ¬ IsBoundary nfa i := fun i hai hib hi => by
    simpa [(getD_boundaries nfa i).mpr hi] using not_boundary_of_rank_eq h hai hib
  simp only [UInt8.le_iff_toNat_le]
  constructor
  · intro hlo
    by_contra hn
    exact hno (lo.toNat - 1) (by omega) (by omega) ⟨lo, hi, next, hs, .inl (by omega)⟩
  · intro hhi
    by_contra hn
    exact hno hi.toNat hhi (by omega) ⟨lo, hi, next, hs, .inr rfl⟩

theorem range_iff_of_get_eq {nfa : Nfa} {a b : UInt8} (h : (ofNfa nfa).get a = (ofNfa nfa).get b)
    {lo hi : UInt8} {next : StateId} (hs : NfaState.range lo hi next ∈ nfa.states) :
    lo ≤ a ∧ a ≤ hi ↔ lo ≤ b ∧ b ≤ hi := by
  obtain ⟨h₁, h₂⟩ := le_of_get_eq h hs
  obtain ⟨h₃, h₄⟩ := le_of_get_eq h.symm hs
  exact ⟨fun ⟨hl, hr⟩ => ⟨h₃ hl, h₂ hr⟩, fun ⟨hl, hr⟩ => ⟨h₁ hl, h₄ hr⟩⟩

/-- The bytes at which a class begins: the least one, and each after a boundary. -/
private def begins (bounds : Array Bool) (b : ℕ) : Bool := b == 0 || bounds.getD (b - 1) false

private structure Represented (bounds : Array Bool) (k : ℕ) (reps : Array UInt8) : Prop where
  listed : reps.toList = ((List.range k).filter (begins bounds)).map Nat.toUInt8
  size_eq_zero : k = 0 → reps.size = 0
  size_eq : ∀ b, k = b + 1 → reps.size = rank bounds b + 1
  least : ∀ b < k, ∃ r, reps[rank bounds b]? = some r ∧ rank bounds r.toNat = rank bounds b ∧
    ∀ a, rank bounds a = rank bounds b → r.toNat ≤ a

private theorem Represented.begins_iff {bounds : Array Bool} {k : ℕ} {reps : Array UInt8}
    (h : Represented bounds k reps) : begins bounds k ↔ reps.size = rank bounds k := by
  cases k with
  | zero => simp [begins, h.size_eq_zero rfl, rank]
  | succ b => rw [h.size_eq b rfl, rank_succ]; simp [begins]

/-- The next byte represents a class of its own. -/
private theorem Represented.push {bounds : Array Bool} {k : ℕ} {reps : Array UInt8}
    (h : Represented bounds k reps) (hk : k < 256) (hnew : reps.size = rank bounds k) :
    Represented bounds (k + 1) (reps.push k.toUInt8) := by
  have hkb : k.toUInt8.toNat = k := Nat.mod_eq_of_lt hk
  refine ⟨?_, by simp, fun b hb => ?_, fun b hb => ?_⟩
  · rw [Array.toList_push, h.listed, List.range_succ, List.filter_append,
      List.filter_cons_of_pos (h.begins_iff.mpr hnew)]
    simp
  · rw [Array.size_push, hnew, Nat.succ.inj hb]
  · rcases Nat.lt_succ_iff_lt_or_eq.mp hb with hb | rfl
    · obtain ⟨r, hr, hrest⟩ := h.least b hb
      obtain ⟨hlt, rfl⟩ := Array.getElem?_eq_some_iff.mp hr
      exact ⟨_, Array.getElem?_push_lt hlt, hrest⟩
    · refine ⟨b.toUInt8, by rw [← hnew, Array.getElem?_push_size], by rw [hkb], fun a ha => ?_⟩
      rw [hkb]
      by_contra hlt
      -- an earlier byte of this class would have been counted already
      obtain ⟨r, hr, -⟩ := h.least a (not_le.mp hlt)
      have := (Array.getElem?_eq_some_iff.mp hr).1
      omega

/-- The next byte belongs to the class of the byte before it. -/
private theorem Represented.skip {bounds : Array Bool} {k : ℕ} {reps : Array UInt8}
    (h : Represented bounds k reps) (hold : reps.size ≠ rank bounds k) :
    Represented bounds (k + 1) reps := by
  obtain ⟨b, rfl⟩ : ∃ b, k = b + 1 := by
    refine Nat.exists_eq_succ_of_ne_zero fun hz => hold ?_
    rw [h.size_eq_zero hz, hz]
    simp [rank]
  have hsize := h.size_eq b rfl
  have hsame : rank bounds (b + 1) = rank bounds b := by
    rw [rank_succ] at hold ⊢
    split at hold
    · exact absurd hsize hold
    · rename_i hno
      rw [if_neg hno]
      rfl
  refine ⟨?_, by simp, fun c hc => ?_, fun c hc => ?_⟩
  · rw [h.listed, @List.range_succ (b + 1), List.filter_append,
      List.filter_cons_of_neg (mt h.begins_iff.mp hold)]
    simp
  · rw [hsize, ← Nat.succ.inj hc, hsame]
  · rcases Nat.lt_succ_iff_lt_or_eq.mp hc with hc | rfl
    · exact h.least c hc
    · rw [hsame]
      exact h.least b (Nat.lt_succ_self b)

private theorem represented_foldl (nfa : Nfa) {k : ℕ} (hk : k ≤ 256) :
    Represented (boundaries nfa) k ((List.range k).foldl (fun reps b =>
      if reps.size = (ofNfa nfa).get b.toUInt8 then reps.push b.toUInt8 else reps) #[]) := by
  induction k with
  | zero => exact ⟨rfl, fun _ => rfl, by simp, by simp⟩
  | succ k ih =>
    have hprev := ih (Nat.le_of_succ_le hk)
    rw [List.range_succ, List.foldl_append, List.foldl_cons, List.foldl_nil, get_ofNfa,
      show k.toUInt8.toNat = k from Nat.mod_eq_of_lt hk]
    split
    · exact hprev.push hk ‹_›
    · exact hprev.skip ‹_›

private theorem represented_representatives (nfa : Nfa) :
    Represented (boundaries nfa) 256 (ofNfa nfa).representatives :=
  represented_foldl nfa le_rfl

/-- Every class is represented by its least byte. -/
theorem exists_representative (nfa : Nfa) (b : UInt8) :
    ∃ r, (ofNfa nfa).representatives[(ofNfa nfa).get b]? = some r ∧
      (ofNfa nfa).get r = (ofNfa nfa).get b ∧
      ∀ a, (ofNfa nfa).get a = (ofNfa nfa).get b → r ≤ a := by
  obtain ⟨r, hr, heq, hle⟩ := (represented_representatives nfa).least b.toNat b.toNat_lt
  simp only [get_ofNfa]
  exact ⟨r, hr, heq, fun a ha => UInt8.le_iff_toNat_le.mpr (hle _ ha)⟩

/-- A class begins at a byte where a range begins, and after a byte where one ends. -/
def startsClass (nfa : Nfa) (b : ℕ) : Bool :=
  b == 0 || nfa.states.any fun
    | .range lo hi _ => lo.toNat == b || hi.toNat + 1 == b
    | _ => false

theorem startsClass_succ (nfa : Nfa) (b : ℕ) : startsClass nfa (b + 1) ↔ IsBoundary nfa b := by
  simp only [startsClass, IsBoundary, Array.any_eq_true', Bool.or_eq_true]
  constructor
  · rintro (h | ⟨q, hq, h⟩)
    · simp at h
    · cases q with
      | range lo hi next => exact ⟨lo, hi, next, hq, by simpa using h⟩
      | _ => simp at h
  · rintro ⟨lo, hi, next, hq, h⟩
    exact .inr ⟨_, hq, by simpa using h⟩

/-- The representatives are the bytes at which the classes begin. -/
theorem representatives_ofNfa (nfa : Nfa) : (ofNfa nfa).representatives =
    (((List.range 256).filter (startsClass nfa)).map Nat.toUInt8).toArray := by
  have hlist := (represented_representatives nfa).listed
  have hbegins (b : ℕ) : begins (boundaries nfa) b = startsClass nfa b := by
    cases b with
    | zero => simp [begins, startsClass]
    | succ b =>
      rw [Bool.eq_iff_iff, startsClass_succ, ← getD_boundaries]
      simp [begins]
  rw [List.filter_congr fun b _ => hbegins b] at hlist
  rw [← hlist]

theorem size_representatives (nfa : Nfa) :
    (ofNfa nfa).representatives.size = (ofNfa nfa).count := by
  rw [(represented_representatives nfa).size_eq 255 rfl, count_ofNfa]

theorem exists_get_eq (nfa : Nfa) {c : ℕ} (hc : c < (ofNfa nfa).representatives.size) :
    ∃ b, (ofNfa nfa).get b = c := by
  rw [size_representatives, count_ofNfa] at hc
  obtain ⟨b, hb, hrank⟩ := exists_rank_eq (boundaries nfa) (Nat.le_of_lt_succ hc)
  have hbyte : b.toUInt8.toNat = b := Nat.mod_eq_of_lt (Nat.lt_succ_of_le hb)
  exact ⟨b.toUInt8, by rw [get_ofNfa, hbyte, hrank]⟩

theorem range_get (nfa : Nfa) : Set.range (ofNfa nfa).get = Set.Iio (ofNfa nfa).count := by
  ext c
  constructor
  · rintro ⟨b, rfl⟩
    exact get_lt_count nfa b
  · exact fun hc => exists_get_eq nfa (size_representatives nfa ▸ hc)

/-- The representative of a class is its least byte. -/
theorem getElem?_representatives_iff {nfa : Nfa} {c : ℕ} {r : UInt8} :
    (ofNfa nfa).representatives[c]? = some r ↔
      (ofNfa nfa).get r = c ∧ ∀ b, (ofNfa nfa).get b = c → r ≤ b := by
  constructor
  · intro hr
    obtain ⟨b, rfl⟩ := exists_get_eq nfa (Array.getElem?_eq_some_iff.mp hr).1
    obtain ⟨r', hr', hget, hle⟩ := exists_representative nfa b
    obtain rfl := Option.some.inj (hr'.symm.trans hr)
    exact ⟨hget, hle⟩
  · rintro ⟨rfl, hleast⟩
    obtain ⟨r', hr', hget, hle⟩ := exists_representative nfa r
    rw [hr', UInt8.le_antisymm (hle r rfl) (hleast r' hget)]

end ConstrainedDecoding.Automaton.ByteClasses
