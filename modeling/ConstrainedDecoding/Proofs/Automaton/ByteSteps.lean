import ConstrainedDecoding.Proofs.Automaton.Determinize
import ConstrainedDecoding.Proofs.Automaton.Trim
import Mathlib

/-! The table of the subset construction has a column for each class of bytes, and is read as if it had one for
each byte. Classes are as coarse as they can be with their numbers in the order of the bytes, and a byte has room
for the number of its class. -/
namespace ConstrainedDecoding.Automaton

variable {limits : CompileLimits} {nfa : Nfa} {d : Dfa} {sets : Array StateSet}

def Nfa.InRange (nfa : Nfa) (s : StateId) (b : UInt8) : Prop :=
  ∃ lo hi next, nfa.states[s]? = some (.range lo hi next) ∧ lo ≤ b ∧ b ≤ hi

theorem inRange_iff_of_get_eq {a b : UInt8} (h : (ByteClasses.ofNfa nfa).get a = (ByteClasses.ofNfa nfa).get b)
    (s : StateId) : nfa.InRange s a ↔ nfa.InRange s b :=
  exists_congr fun _ => exists_congr fun _ => exists_congr fun _ => and_congr_right fun hs =>
    ByteClasses.range_iff_of_get_eq h (Array.mem_of_getElem? hs)

theorem Nfa.not_isDead_of_reaches {start S : StateSet} (hstart : ¬ start.isDead)
    (h : Numbering.Reaches nfa.targets start S) : ¬ S.isDead := by
  cases h with
  | refl => exact hstart
  | tail _ hS =>
    obtain ⟨b, -, hb⟩ := List.mem_map.mp hS
    exact (close?_eq_some_iff.mp hb).2

/-- The target for a byte is the set that a subset step on this byte gives, or a dead end if that set is
dead. -/
theorem Simulates.map_next? (h : Simulates d nfa sets) (halive : ∀ S ∈ sets, ¬ S.isDead) (s : StateId)
    (b : UInt8) :
    (d.next? s b).map (sets[·]?) = (sets[s]?.bind fun S => nfa.close? (nfa.step S b) false).map some := by
  cases hS : sets[s]? with
  | none =>
    have hnext : d.next? s b = none := by
      by_contra hnext
      obtain ⟨t, ht⟩ := Option.ne_none_iff_exists'.mp hnext
      have hlt := Dfa.lt_of_next? h.size_rows ht
      rw [← h.size_rows, h.rows] at hlt
      exact absurd (Array.getElem?_eq_none_iff.mp hS) (not_le.mpr hlt)
    rw [hnext]
    rfl
  | some S =>
    obtain ⟨T, hT, ht⟩ := h.next hS b
    rw [Option.bind_some, Nfa.close?_eq hT]
    cases hn : d.next? s b with
    | none =>
      rw [hn] at ht
      rw [if_pos ht]
      rfl
    | some t =>
      have ht : sets[t]? = some T := by rwa [hn] at ht
      rw [if_neg (halive T (Array.mem_of_getElem? ht)), Option.map_some, ht, Option.map_some]

/-- The states of the automaton are different sets, the first of which is the closure of the start, and every byte
leads from a set to the closure of what follows it after this byte. -/
theorem exists_sets_of_determinize (h : determinize limits nfa = .ok d) : ∃ sets : Array StateSet,
    sets.toList.Nodup ∧ sets[0]? = nfa.close? [nfa.start] true ∧ d.accepting = sets.map (·.accepting) ∧
      ∀ s b, (d.next? s b).map (sets[·]?) = (sets[s]?.bind fun S => nfa.close? (nfa.step S b) false).map some := by
  obtain ⟨start, m, found, hcl, hdead, hb, hsz, hrun, rfl⟩ := exists_run_of_determinize h
  have hf := Discovery.run_filled (filled_initial hb hsz) (Nat.add_zero _) hrun
  have hsighted := (Discovery.holds_initial hb hsz hdead).sighted hrun
  -- a dead set is no target of the search, so that only dead ends stand for dead sets
  have halive : ∀ S ∈ found.sets, ¬ S.isDead := fun S hS =>
    Nfa.not_isDead_of_reaches hdead (hsighted.reached S (Array.mem_toList_iff.mpr hS))
  refine ⟨found.sets, hsighted.nodup, ?_, rfl, (hf.simulates hcl).map_next? halive⟩
  rw [hf.first, Nfa.close?_eq hcl, if_neg hdead]

namespace ByteClasses

/-- Byte classes are sound and tight. Bytes of one class are in the same ranges, and neighbours are told apart only
where a range begins or ends. Classes are numbered upwards from zero without a gap, also where every byte has its
own, and each is represented by its least byte. So a table with a column for each class leads from every state,
for every byte, where a subset step on this byte leads. -/
theorem ofNfa_exact (nfa : Nfa) :
    (∀ a b, (ofNfa nfa).get a = (ofNfa nfa).get b → ∀ s, nfa.InRange s a ↔ nfa.InRange s b) ∧
    (∀ b : UInt8, b < 255 → ((ofNfa nfa).get b ≠ (ofNfa nfa).get (b + 1) ↔ IsBoundary nfa b.toNat)) ∧
    (∀ a b, a ≤ b → (ofNfa nfa).get a ≤ (ofNfa nfa).get b) ∧ (ofNfa nfa).get 0 = 0 ∧
    Set.range (ofNfa nfa).get = Set.Iio (ofNfa nfa).count ∧
    ((∀ b < 255, IsBoundary nfa b) → (ofNfa nfa).count = 256 ∧ ∀ b, (ofNfa nfa).get b = b.toNat) ∧
    (ofNfa nfa).representatives.size = (ofNfa nfa).count ∧
    (∀ c r, (ofNfa nfa).representatives[c]? = some r ↔
      (ofNfa nfa).get r = c ∧ ∀ b, (ofNfa nfa).get b = c → r ≤ b) ∧
    ∀ limits d, determinize limits nfa = .ok d → ∃ sets : Array StateSet,
      sets.toList.Nodup ∧ sets[0]? = nfa.close? [nfa.start] true ∧ d.accepting = sets.map (·.accepting) ∧
        ∀ s b, (d.next? s b).map (sets[·]?) =
          (sets[s]?.bind fun S => nfa.close? (nfa.step S b) false).map some :=
  ⟨fun _ _ => inRange_iff_of_get_eq, fun _ => get_ne_get_succ_iff, fun _ _ => get_le_get nfa, get_zero nfa,
    range_get nfa, fun h => ⟨count_eq_of_forall h, get_eq_toNat h⟩, size_representatives nfa,
    fun _ _ => getElem?_representatives_iff, fun _ _ => exists_sets_of_determinize⟩

/-- The automaton of `[b-d]`. -/
def bToD : Nfa := { states := #[.range 98 100 1, .accept], start := 0 }

def singleBytes : Nfa where
  states := ((List.range 256).map fun b => NfaState.range b.toUInt8 b.toUInt8 0).toArray
  start := 0

private theorem isBoundary_singleBytes : ∀ b < 255, IsBoundary singleBytes b := by
  intro b hb
  have hmem : NfaState.range b.toUInt8 b.toUInt8 0 ∈ singleBytes.states :=
    List.mem_toArray.mpr (List.mem_map_of_mem (List.mem_range.mpr (by omega)))
  exact ⟨_, _, _, hmem, .inr (Nat.mod_eq_of_lt (by omega))⟩

private theorem representatives_bToD : (ofNfa bToD).representatives = #[0, 98, 101] := by
  rw [representatives_ofNfa]
  decide +kernel

private theorem determinize_bToD : ∃ d, determinize {} bToD = .ok d := by
  have hok : (determinize {} bToD).isOk := by
    simp only [determinize, representatives_bToD]
    generalize ofNfa bToD = classes
    cbv
  exact exists_of_isOk hok

/-- In `[b-d]`, the letter `b` begins a class and `c` belongs to it, so the row of the start has for `c` what the
step on `b` gave. Where all bytes are told apart, there are 256 classes. -/
theorem ofNfa_exact_bToD :
    (ofNfa bToD).get 97 < (ofNfa bToD).get 98 ∧ (ofNfa bToD).get 98 = (ofNfa bToD).get 99 ∧
    (bToD.InRange 0 98 ↔ bToD.InRange 0 99) ∧ (ofNfa bToD).representatives[1]? = some 98 ∧
    (∃ d, ∃ sets : Array StateSet, determinize {} bToD = .ok d ∧ sets[0]? = some ⟨[0], false⟩ ∧
      (d.next? 0 99).map (sets[·]?) = some (some ⟨[], true⟩)) ∧
    (∀ b < 255, IsBoundary singleBytes b) ∧ (ofNfa singleBytes).count = 256 ∧
    (ofNfa singleBytes).get 255 = 255 := by
  obtain ⟨hsound, htight, hmono, -, -, -, -, -, hsteps⟩ := ofNfa_exact bToD
  obtain ⟨-, -, -, -, -, hseparated, -⟩ := ofNfa_exact singleBytes
  have hbegin : startsClass bToD 98 := by decide +kernel
  have hinside : ¬ startsClass bToD 99 := by decide +kernel
  have hnew : (ofNfa bToD).get 97 ≠ (ofNfa bToD).get 98 :=
    (htight 97 (by decide)).mpr ((startsClass_succ bToD 97).mp hbegin)
  have hsame : (ofNfa bToD).get 98 = (ofNfa bToD).get 99 := by
    by_contra hne
    exact hinside ((startsClass_succ bToD 98).mpr ((htight 98 (by decide)).mp hne))
  obtain ⟨d, hd⟩ := determinize_bToD
  obtain ⟨sets, -, hfirst, -, hnext⟩ := hsteps {} d hd
  have hstart : bToD.close? [0] true = some ⟨[0], false⟩ := by cbv
  have hstep : bToD.close? (bToD.step ⟨[0], false⟩ 99) false = some ⟨[], true⟩ := by cbv
  obtain ⟨hcount, hget⟩ := hseparated isBoundary_singleBytes
  refine ⟨lt_of_le_of_ne (hmono 97 98 (by decide)) hnew, hsame, hsound 98 99 hsame 0, ?_,
    ⟨d, sets, hd, hfirst.trans hstart, ?_⟩, isBoundary_singleBytes, hcount, hget 255⟩
  · rw [representatives_bToD]
    rfl
  · rw [hnext, hfirst.trans hstart, Option.bind_some, hstep, Option.map_some]

end ByteClasses

end ConstrainedDecoding.Automaton
