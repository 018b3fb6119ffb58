import ConstrainedDecoding.Proofs.SharedCache.Alone

/-! A cache at rest: no slot is left without a guide, and no more guides are kept than there is room for. -/
namespace ConstrainedDecoding.SharedCache

open GuideCache (Key Call Recency)

variable {c c' : SharedCache} {key : Key} {id : SlotId} {p p' : Phase} {s s' : System} {es : List Event}
  {b : Except Error Guide}

/-- The slot that a call is to fill or to take out of the table, unless another call fills it. -/
def Phase.charge? : Phase → Option SlotId
  | .ticking slot none | .stamping slot _ none | .checking slot | .waiting slot | .rechecking slot
  | .building slot | .counting slot _ | .filling slot _ | .releasing slot (.failed _)
  | .discarding slot _ => some slot
  | _ => none

def Phase.owesRoom : Phase → Bool
  | .releasing _ (.built _) | .ticking _ (some _) | .stamping _ _ (some _) | .evicting _ => true
  | _ => false

/-- A slot in the table that has no guide is in the charge of the call that takes the step, or it was
there before and in the charge of another one. -/
theorem Phase.Step.charge (h : p.Step key b c c' p') (hc : c.Valid)
    (hown : ∀ id, p.slot? = some id → c.key? id = some key) (hid : id ∈ c'.table)
    (hguide : c'.guide? id = none) :
    p'.charge? = some id ∨ id ∈ c.table ∧ c.guide? id = none ∧ p.charge? ≠ some id := by
  have hsame (hcharge : p'.charge? = p.charge?) (hid : id ∈ c.table) (hguide : c.guide? id = none) :
      p'.charge? = some id ∨ id ∈ c.table ∧ c.guide? id = none ∧ p.charge? ≠ some id := by
    by_cases h : p.charge? = some id
    · exact Or.inl (hcharge.trans h)
    · exact Or.inr ⟨hid, hguide, h⟩
  -- a slot whose guide was found is not among those without one
  have hbuilt {slot : SlotId} {g : BuiltGuide} (hg : c.guide? slot = some g)
      (hguide : c.guide? id = none) : some slot ≠ some id := by
    intro heq
    rw [Option.some.inj heq, hguide] at hg
    cases hg
  cases h with
  | enter =>
    rw [guide?_enter] at hguide
    cases mem_table_enter.mp hid with
    | inl heq => exact Or.inl (congrArg some heq.symm)
    | inr hid => exact Or.inr ⟨hid, hguide, nofun⟩
  | tick => exact hsame (by cases ‹Option BuiltGuide› <;> rfl) hid hguide
  | hit hg => exact Or.inr ⟨hid, hguide, hbuilt hg hguide⟩
  | lateHit hg => exact Or.inr ⟨hid, hguide, hbuilt hg hguide⟩
  | @fill slot g =>
    by_cases heq : slot = id
    · subst heq
      rw [guide?_fill_self (hown slot rfl)] at hguide
      cases hguide
    · rw [guide?_fill_of_ne heq] at hguide
      exact Or.inr ⟨hid, hguide, fun h => heq (Option.some.inj h)⟩
  | @discard slot e =>
    obtain ⟨hmem, hkept⟩ := (mem_table_discard hc (hown slot rfl)).mp hid
    rw [discard_eq] at hguide
    have hne : slot ≠ id := fun heq => hkept ⟨heq.symm, heq ▸ hguide⟩
    exact Or.inr ⟨hmem, hguide, fun h => hne (Option.some.inj h)⟩
  | evict =>
    rw [evict_eq] at hguide
    exact Or.inr ⟨evict_subset hid, hguide, nofun⟩
  | stampWanted | stampBuilt | acquire | releaseFound | releaseBuilt | releaseFailed =>
    exact hsame rfl hid (by simpa using hguide)
  | miss | lateMiss | build | fail | count => exact hsame rfl hid hguide

theorem size_eq_countP : c.size = c.table.countP fun id => (c.guide? id).isSome := by
  unfold size builtSlots slots
  rw [← List.countP_eq_length_filter, List.countP_filterMap]
  refine List.countP_congr fun id _ => ?_
  cases hcell : c.cells[id]? <;> simp [guide?, hcell]

theorem size_le_of_sublist (htable : c'.table.Sublist c.table) (hguide : ∀ id, c'.guide? id = c.guide? id) :
    c'.size ≤ c.size := by
  simp only [size_eq_countP, hguide]
  exact htable.countP_le

theorem size_enter : (c.enter key).size = c.size := by
  cases hslot : c.slot? key with
  | some slot => rw [(enter_of_some hslot).1]
  | none =>
    have htable : (c.enter key).table = c.cells.length :: c.table := by rw [(enter_of_none hslot).1]
    have hnone : c.guide? c.cells.length = none := by simp [guide?]
    simp [size_eq_countP, guide?_enter, htable, hnone]

/-- After a step of a call, the call owes room, or there are no more guides than before and it owed none,
or there are no more guides than there is room for. -/
theorem Phase.Step.size (h : p.Step key b c c' p') :
    p'.owesRoom ∨ (c'.size ≤ c.size ∧ p.owesRoom = false) ∨
      ∀ n, c.capacity = some n → c'.size ≤ n := by
  cases h with
  | enter => exact Or.inr (Or.inl ⟨size_enter.le, rfl⟩)
  | @tick slot built? =>
    cases built? with
    | none => exact Or.inr (Or.inl ⟨le_rfl, rfl⟩)
    | some g => exact Or.inl rfl
  | stampBuilt | fill | releaseBuilt => exact Or.inl rfl
  | evict => exact Or.inr (Or.inr fun n => size_evict_le)
  | discard =>
    rw [discard_eq]
    exact Or.inr (Or.inl ⟨size_le_of_sublist discard_sublist fun _ => rfl, rfl⟩)
  | stampWanted | acquire | releaseFound | releaseFailed =>
    exact Or.inr (Or.inl ⟨size_le_of_sublist (.refl _) (by simp), rfl⟩)
  | _ => exact Or.inr (Or.inl ⟨le_rfl, rfl⟩)

namespace System

/-- Slots without guides are in the charge of some call, and if there are too many guides, then some call
owes room. -/
structure Tended (s : System) : Prop where
  charge : ∀ id ∈ s.cache.table, s.cache.guide? id = none → ∃ r ∈ s.requests, r.phase.charge? = some id
  room : ∀ n, s.cache.capacity = some n → s.cache.size ≤ n ∨ ∃ r ∈ s.requests, r.phase.owesRoom

theorem Tended.move (h : s.Tended) (hs : s.WellFormed) (hmove : s.Move s' es) : s'.Tended := by
  cases hmove with
  | @advance i r phase hr hrequests hstep =>
    have hown := hs.own r (List.mem_of_getElem? hr)
    have hi := (List.getElem?_eq_some_iff.mp hr).1
    have hmem : { r with phase } ∈ s'.requests := hrequests ▸ List.mem_set hi _
    constructor
    · intro id hid hguide
      cases hstep.charge hs.valid hown hid hguide with
      | inl hcharge => exact ⟨_, hmem, hcharge⟩
      | inr hold =>
        obtain ⟨hid, hguide, hne⟩ := hold
        rw [hrequests]
        exact exists_mem_set (h.charge id hid hguide) hr fun hcharge => absurd hcharge hne
    · intro n hn
      rw [hstep.extends.capacity] at hn
      obtain howes | ⟨hle, howes⟩ | hle := hstep.size
      · exact Or.inr ⟨_, hmem, howes⟩
      · cases h.room n hn with
        | inl hsize => exact Or.inl (hle.trans hsize)
        | inr hr' =>
          right
          rw [hrequests]
          exact exists_mem_set hr' hr fun h => by simp [howes] at h
      · exact Or.inl (hle n hn)
  | start hr hrequests hcache =>
    have hold {P : Request → Prop} (h : ∃ r ∈ s.requests, P r) : ∃ r ∈ s'.requests, P r := by
      obtain ⟨r, hr, hP⟩ := h
      exact ⟨r, hrequests ▸ List.mem_append_left _ hr, hP⟩
    constructor
    · intro id hid hguide
      rw [hcache] at hid hguide
      exact hold (h.charge id hid hguide)
    · intro n hn
      rw [hcache] at hn ⊢
      exact (h.room n hn).imp_right hold
  | clear hrequests hcache =>
    constructor
    · intro id hid
      rw [hcache] at hid
      cases hid
    · intro n hn
      rw [hcache]
      exact Or.inl (Nat.zero_le n)
  | quiet hrequests hcache =>
    constructor
    · intro id hid hguide
      rw [hcache.guide] at hguide
      rw [hrequests]
      exact h.charge id (hcache.table.mem_iff.mp hid) hguide
    · intro n hn
      have hsize : s'.cache.size = s.cache.size := by
        simp only [size_eq_countP, hcache.guide]
        exact hcache.table.countP_eq _
      rw [hcache.capacity] at hn
      rw [hsize, hrequests]
      exact h.room n hn

theorem tended_initial (capacity : Option ℕ) : (initial capacity).Tended where
  charge := by simp [initial, empty]
  room n _ := Or.inl (Nat.zero_le n)

theorem Run.tended {capacity : Option ℕ} (h : (initial capacity).Run es s) : s.WellFormed ∧ s.Tended :=
  h.invariant (P := fun s => s.WellFormed ∧ s.Tended)
    ⟨wellFormed_initial capacity, tended_initial capacity⟩
    fun hmove h => ⟨h.1.move hmove, h.2.move h.1 hmove⟩

end System

/-- A cache is tidy whenever no call for a guide is under way, whatever calls there were: all slots in its
table have guides, and there are no more of them than there is room for. -/
theorem tidy_at_rest {capacity : Option ℕ} (h : (System.initial capacity).Run es s)
    (hdone : ∀ r ∈ s.requests, r.phase.IsDone) :
    (∀ id ∈ s.cache.table, (s.cache.guide? id).isSome) ∧
      ∀ n, capacity = some n → s.cache.table.length ≤ n := by
  obtain ⟨-, htended⟩ := h.tended
  have hbuilt : ∀ id ∈ s.cache.table, (s.cache.guide? id).isSome := by
    intro id hid
    by_contra hnone
    obtain ⟨r, hr, hcharge⟩ := htended.charge id hid (by simpa using hnone)
    obtain ⟨result, hresult⟩ := hdone r hr
    rw [hresult] at hcharge
    cases hcharge
  refine ⟨hbuilt, fun n hn => ?_⟩
  have hsize : s.cache.size = s.cache.table.length := by
    rw [size_eq_countP, List.countP_eq_length]
    exact hbuilt
  rw [← hsize]
  cases htended.room n (h.capacity_eq.trans hn) with
  | inl hle => exact hle
  | inr howes =>
    obtain ⟨r, hr, howes⟩ := howes
    obtain ⟨result, hresult⟩ := hdone r hr
    rw [hresult] at howes
    cases howes

/-- With room for one guide, after a build that succeeds and one that fails. -/
theorem tidy_at_rest_ab :
    ∃ es s g, (System.initial (some 1)).Run es s ∧
      s.requests.map (·.phase) = [.done (.ok g), .done (.error (.tooComplex .patternLength 0))] ∧
      (∀ id ∈ s.cache.table, (s.cache.guide? id).isSome) ∧ s.cache.table.length ≤ 1 := by
  obtain ⟨guide, hguide⟩ := Guide.ofPattern_ab
  have herror : Guide.ofPattern { compile := { patternLength := 0 } } "b" (.ofVocabulary Guide.abVocabulary) =
      .error (.tooComplex .patternLength 0) := Guide.ofPattern_of_tooLong (by decide) _
  have hindexed : ∀ call ∈ [Call.getOrBuild {} "ab" (.ofVocabulary Guide.abVocabulary),
      Call.getOrBuild { compile := { patternLength := 0 } } "b" (.ofVocabulary Guide.abVocabulary)],
      call.Indexed := by
    simp [Call.Indexed, VocabularyIndex.ofVocabulary]
  obtain ⟨es, s, answers, store, hrun, hrest, hanswers, hshows⟩ := refines_store { capacity := some 1 } hindexed
  obtain ⟨hbuilt, hlength⟩ := tidy_at_rest hrun hrest.1
  refine ⟨es, s, { serial := 0, guide }, hrun, ?_, hbuilt, hlength 1 rfl⟩
  have hrecency := (GuideCache.run_represents (GuideCache.represents_empty .standard { capacity := some 1 })
    [.getOrBuild {} "ab" (.ofVocabulary Guide.abVocabulary),
      .getOrBuild { compile := { patternLength := 0 } } "b" (.ofVocabulary Guide.abVocabulary)]).1
  rw [hshows.requests, ← show _ = answers from congrArg Prod.fst hanswers, hrecency]
  simp [GuideCache.run, Recency.perform, Recency.getOrElse, Recency.find?, Recency.empty, Recency.use,
    Recency.cut, GuideCache.keyOf, hguide, herror, phase?]

end ConstrainedDecoding.SharedCache
