import ConstrainedDecoding.Proofs.SharedCache.Run

/-! The locks of slots: no two calls build a guide for one slot, and no call waits for ever. -/
namespace ConstrainedDecoding.SharedCache

open GuideCache (Key)

variable {c c' : SharedCache} {key : Key} {slot id : SlotId} {p p' : Phase} {s s' : System} {es : List Event}
  {b : Except Error Guide}

def Phase.holds? : Phase → Option SlotId
  | .rechecking slot | .building slot | .counting slot _ | .filling slot _ | .releasing slot _ => some slot
  | _ => none

def Phase.builds? : Phase → Option SlotId
  | .building slot | .counting slot _ | .filling slot _ => some slot
  | _ => none

def Phase.IsDone (p : Phase) : Prop := ∃ result, p = .done result

def Lookup.Phase.IsDone (p : Lookup.Phase) : Prop := ∃ guide?, p = .done guide?

theorem Phase.holds?_of_builds? (h : p.builds? = some id) : p.holds? = some id := by
  cases p <;> first | exact h | cases h

/-- A step of a call takes a free lock, gives its lock back, or leaves all locks as they are. -/
theorem Phase.Step.holds (h : p.Step key b c c' p')
    (hown : ∀ id, p.slot? = some id → c.key? id = some key) :
    (p'.holds? = p.holds? ∧ ∀ id, c'.isLocked id = c.isLocked id) ∨
      (∃ slot, p.holds? = none ∧ p'.holds? = some slot ∧ c.isLocked slot = false ∧
        ∀ id, c'.isLocked id = (slot = id || c.isLocked id)) ∨
      ∃ slot, p.holds? = some slot ∧ p'.holds? = none ∧
        ∀ id, c'.isLocked id = (slot ≠ id && c.isLocked id) := by
  cases h with
  | enter => exact Or.inl ⟨rfl, fun id => isLocked_enter⟩
  | stampWanted | stampBuilt | fill => exact Or.inl ⟨rfl, fun id => isLocked_update fun _ => rfl⟩
  | @acquire slot hfree =>
    exact Or.inr (Or.inl ⟨slot, rfl, rfl, hfree, fun id => isLocked_lock (hown slot rfl)⟩)
  | @releaseFound slot | @releaseBuilt slot | @releaseFailed slot =>
    exact Or.inr (Or.inr ⟨slot, rfl, rfl, fun id => isLocked_unlock⟩)
  | discard =>
    rw [discard_eq]
    exact Or.inl ⟨rfl, fun id => rfl⟩
  | evict =>
    rw [evict_eq]
    exact Or.inl ⟨rfl, fun id => rfl⟩
  | _ => exact Or.inl ⟨rfl, fun id => rfl⟩

/-- Only a call that holds the lock of a slot puts a guide into it. -/
theorem Phase.Step.guide?_eq (h : p.Step key b c c' p') (id : SlotId) :
    c'.guide? id = c.guide? id ∨ p.holds? = some id := by
  cases h with
  | enter => exact Or.inl guide?_enter
  | stampWanted | stampBuilt | acquire | releaseFound | releaseBuilt | releaseFailed =>
    exact Or.inl (by simp)
  | @fill slot g =>
    by_cases heq : slot = id
    · exact Or.inr (congrArg some heq)
    · exact Or.inl (guide?_fill_of_ne heq)
  | discard =>
    rw [discard_eq]
    exact Or.inl rfl
  | evict =>
    rw [evict_eq]
    exact Or.inl rfl
  | _ => exact Or.inl rfl

/-- A call builds only for a slot in which it has seen no guide. -/
theorem Phase.Step.unbuilt (h : p.Step key b c c' p')
    (hp : ∀ id, p.builds? = some id → c.guide? id = none) (hid : p'.builds? = some id) :
    c'.guide? id = none := by
  cases h with
  | lateMiss hguide =>
    cases hid
    exact hguide
  | build | count => exact hp id hid
  | _ => cases hid

namespace System

variable {i j : ℕ} {r : Request} {phase : Phase}

def Holds (s : System) (i : ℕ) (id : SlotId) : Prop :=
  ∃ r, s.requests[i]? = some r ∧ r.phase.holds? = some id

/-- The locks of slots are held by calls, each by one, and there are no guides in the slots for which they
are being built. -/
structure Locked (s : System) : Prop where
  locked : ∀ i id, s.Holds i id → s.cache.isLocked id
  holder : ∀ id, s.cache.isLocked id → ∃ i, s.Holds i id
  exclusive : ∀ i j id, s.Holds i id → s.Holds j id → i = j
  unbuilt : ∀ r ∈ s.requests, ∀ id, r.phase.builds? = some id → s.cache.guide? id = none

theorem holds_congr (h : s'.requests[i]? = s.requests[i]?) : s'.Holds i id ↔ s.Holds i id := by
  unfold Holds
  rw [h]

/-- After a step of one call, the other calls hold the locks that they held before. -/
theorem holds_set (hr : s.requests[i]? = some r)
    (hrequests : s'.requests = s.requests.set i { r with phase }) (j : ℕ) (id : SlotId) :
    s'.Holds j id ↔ if j = i then phase.holds? = some id else s.Holds j id := by
  by_cases hj : j = i
  · subst hj
    have hi := (List.getElem?_eq_some_iff.mp hr).1
    simp [Holds, hrequests, List.getElem?_set_self hi]
  · rw [if_neg hj]
    apply holds_congr
    rw [hrequests, List.getElem?_set_ne (Ne.symm hj)]

theorem Locked.unbuilt_advance (h : s.Locked) (hr : s.requests[i]? = some r)
    (hrequests : s'.requests = s.requests.set i { r with phase })
    (hstep : r.phase.Step r.key b s.cache s'.cache phase) :
    ∀ r' ∈ s'.requests, ∀ id, r'.phase.builds? = some id → s'.cache.guide? id = none := by
  intro r' hr' id hid
  obtain ⟨j, hj⟩ := List.getElem?_of_mem hr'
  rw [hrequests] at hj
  by_cases hij : i = j
  · subst hij
    rw [List.getElem?_set_self (List.getElem?_eq_some_iff.mp hr).1] at hj
    obtain rfl := Option.some.inj hj
    exact hstep.unbuilt (h.unbuilt r (List.mem_of_getElem? hr)) hid
  · rw [List.getElem?_set_ne hij] at hj
    have hguide := h.unbuilt r' (List.mem_of_getElem? hj) id hid
    cases hstep.guide?_eq id with
    | inl heq => exact heq.trans hguide
    | inr hi =>
      have hj : s.Holds j id := ⟨r', hj, r'.phase.holds?_of_builds? hid⟩
      exact absurd (h.exclusive i j id ⟨r, hr, hi⟩ hj) hij

theorem Locked.of_eq (h : s.Locked) (hlocks : ∀ id, s'.cache.isLocked id = s.cache.isLocked id)
    (hholds : ∀ i id, s'.Holds i id ↔ s.Holds i id)
    (hunbuilt : ∀ r ∈ s'.requests, ∀ id, r.phase.builds? = some id → s'.cache.guide? id = none) :
    s'.Locked where
  locked i id hi := (hlocks id).trans (h.locked i id ((hholds i id).mp hi))
  holder id hid := by
    obtain ⟨i, hi⟩ := h.holder id ((hlocks id).symm.trans hid)
    exact ⟨i, (hholds i id).mpr hi⟩
  exclusive i j id hi hj := h.exclusive i j id ((hholds i id).mp hi) ((hholds j id).mp hj)
  unbuilt := hunbuilt

theorem Locked.acquire (h : s.Locked) (hfree : s.cache.isLocked slot = false)
    (hlocks : ∀ id, s'.cache.isLocked id = (slot = id || s.cache.isLocked id))
    (hholds : ∀ j id, s'.Holds j id ↔ j = i ∧ id = slot ∨ s.Holds j id)
    (hunbuilt : ∀ r ∈ s'.requests, ∀ id, r.phase.builds? = some id → s'.cache.guide? id = none) :
    s'.Locked := by
  have hnone (j : ℕ) : ¬ s.Holds j slot := by
    intro hj
    have hlocked := h.locked j slot hj
    rw [hfree] at hlocked
    cases hlocked
  refine ⟨?_, ?_, ?_, hunbuilt⟩
  · intro j id hj
    rw [hlocks, Bool.or_eq_true, decide_eq_true_iff]
    exact ((hholds j id).mp hj).imp (fun h => h.2.symm) (h.locked j id)
  · intro id hid
    rw [hlocks, Bool.or_eq_true, decide_eq_true_iff] at hid
    cases hid with
    | inl heq => exact ⟨i, (hholds i id).mpr (Or.inl ⟨rfl, heq.symm⟩)⟩
    | inr hid =>
      obtain ⟨j, hj⟩ := h.holder id hid
      exact ⟨j, (hholds j id).mpr (Or.inr hj)⟩
  · intro j j' id hj hj'
    obtain ⟨rfl, rfl⟩ | hj := (hholds j id).mp hj
    · obtain ⟨rfl, -⟩ | hj' := (hholds j' id).mp hj'
      · rfl
      · exact absurd hj' (hnone j')
    · obtain ⟨rfl, rfl⟩ | hj' := (hholds j' id).mp hj'
      · exact absurd hj (hnone j)
      · exact h.exclusive j j' id hj hj'

theorem Locked.release (h : s.Locked) (hself : ∀ id, s.Holds i id ↔ id = slot)
    (hlocks : ∀ id, s'.cache.isLocked id = (slot ≠ id && s.cache.isLocked id))
    (hholds : ∀ j id, s'.Holds j id ↔ j ≠ i ∧ s.Holds j id)
    (hunbuilt : ∀ r ∈ s'.requests, ∀ id, r.phase.builds? = some id → s'.cache.guide? id = none) :
    s'.Locked := by
  refine ⟨?_, ?_, ?_, hunbuilt⟩
  · intro j id hj
    obtain ⟨hne, hj⟩ := (hholds j id).mp hj
    rw [hlocks, Bool.and_eq_true, decide_eq_true_iff]
    refine ⟨fun heq => hne ?_, h.locked j id hj⟩
    exact h.exclusive j i id hj ((hself id).mpr heq.symm)
  · intro id hid
    rw [hlocks, Bool.and_eq_true, decide_eq_true_iff] at hid
    obtain ⟨j, hj⟩ := h.holder id hid.2
    refine ⟨j, (hholds j id).mpr ⟨fun heq => hid.1 ?_, hj⟩⟩
    rw [heq] at hj
    exact ((hself id).mp hj).symm
  · intro j j' id hj hj'
    exact h.exclusive j j' id ((hholds j id).mp hj).2 ((hholds j' id).mp hj').2

theorem Locked.advance (h : s.Locked) (hs : s.WellFormed) (hr : s.requests[i]? = some r)
    (hrequests : s'.requests = s.requests.set i { r with phase })
    (hstep : r.phase.Step r.key b s.cache s'.cache phase) : s'.Locked := by
  have hset := holds_set hr hrequests
  have hself (id : SlotId) : s.Holds i id ↔ r.phase.holds? = some id := by simp [Holds, hr]
  have hunbuilt := h.unbuilt_advance hr hrequests hstep
  obtain ⟨hsame, hlocks⟩ | ⟨slot, hnone, hsome, hfree, hlocks⟩ | ⟨slot, hsome, hnone, hlocks⟩ :=
    hstep.holds (hs.own r (List.mem_of_getElem? hr))
  · refine h.of_eq hlocks (fun j id => ?_) hunbuilt
    rw [hset, hsame]
    split
    · rename_i hj
      rw [hj, hself]
    · exact Iff.rfl
  · refine h.acquire (i := i) hfree hlocks (fun j id => ?_) hunbuilt
    rw [hset]
    split
    · rename_i hj
      rw [hj, hself, hnone, hsome]
      simp [eq_comm]
    · rename_i hj
      simp [hj]
  · refine h.release (i := i) (fun id => ?_) hlocks (fun j id => ?_) hunbuilt
    · rw [hself, hsome]
      simp [eq_comm]
    · rw [hset]
      split
      · rename_i hj
        simp [hj, hnone]
      · rename_i hj
        simp [hj]

theorem Locked.move (h : s.Locked) (hs : s.WellFormed) (hmove : s.Move s' es) : s'.Locked := by
  cases hmove with
  | advance hr hrequests hstep => exact h.advance hs hr hrequests hstep
  | @start r hr hrequests hcache =>
    refine h.of_eq (fun id => by rw [hcache]) (fun i id => ?_) ?_
    · unfold Holds
      rw [hrequests]
      by_cases hi : i < s.requests.length
      · rw [List.getElem?_append_left hi]
      · have hnone : s.requests[i]? = none := List.getElem?_eq_none (not_lt.mp hi)
        rw [hnone, List.getElem?_append_right (not_lt.mp hi)]
        constructor
        · intro hnew
          obtain ⟨r', hr', hid⟩ := hnew
          obtain rfl : r' = r := by
            simpa using (List.mem_of_getElem? hr')
          rw [hr] at hid
          cases hid
        · intro hold
          obtain ⟨r', hr', -⟩ := hold
          cases hr'
    · rw [hrequests, hcache]
      refine List.forall_mem_append.mpr ⟨h.unbuilt, List.forall_mem_singleton.mpr fun id hid => ?_⟩
      rw [hr] at hid
      cases hid
  | clear hrequests hcache =>
    refine h.of_eq (fun id => by rw [hcache]; rfl) (fun i id => holds_congr (by rw [hrequests])) ?_
    rw [hrequests, hcache]
    exact h.unbuilt
  | quiet hrequests hcache =>
    refine h.of_eq hcache.isLocked (fun i id => holds_congr (by rw [hrequests])) ?_
    rw [hrequests]
    exact fun r hr id hid => (hcache.guide id).trans (h.unbuilt r hr id hid)

theorem Locked.free (h : s.Locked) (hs : ∀ r ∈ s.requests, r.phase.holds? = none) (id : SlotId) :
    s.cache.isLocked id = false := by
  by_contra hlocked
  obtain ⟨i, r, hr, hholds⟩ := h.holder id (by simpa using hlocked)
  rw [hs r (List.mem_of_getElem? hr)] at hholds
  cases hholds

theorem locked_initial (capacity : Option ℕ) : (initial capacity).Locked where
  locked i id hi := by simp [Holds, initial] at hi
  holder id hid := by simp [isLocked, initial, empty] at hid
  exclusive i j id hi := by simp [Holds, initial] at hi
  unbuilt := by simp [initial]

end System

/-! ### Calls come to their ends -/

def Phase.remaining : Phase → ℕ
  | .entering => 13
  | .ticking _ none => 12
  | .stamping _ _ none => 11
  | .checking _ => 10
  | .waiting _ => 9
  | .rechecking _ => 8
  | .building _ => 7
  | .counting _ _ => 6
  | .filling _ _ => 5
  | .releasing _ (.built _) => 4
  | .ticking _ (some _) => 3
  | .stamping _ _ (some _) => 2
  | .releasing _ (.failed _) => 2
  | .evicting _ | .discarding _ _ | .releasing _ (.found _) => 1
  | .done _ => 0

def Lookup.Phase.remaining : Lookup.Phase → ℕ
  | .looking => 4
  | .reading _ => 3
  | .ticking _ _ => 2
  | .stamping _ _ _ => 1
  | .done _ => 0

theorem Phase.Step.remaining_lt (h : p.Step key b c c' p') : p'.remaining < p.remaining := by
  cases h with
  | @tick slot built? => cases built? <;> simp [Phase.remaining]
  | _ => simp [Phase.remaining]

theorem Lookup.Phase.Step.remaining_lt {p p' : Lookup.Phase} (h : p.Step key c c' p') :
    p'.remaining < p.remaining := by
  cases h <;> simp [Lookup.Phase.remaining]

/-- Only a lock that is held keeps a call from its next step. -/
theorem Phase.exists_step (p : Phase) (key : Key) (b : Except Error Guide) (c : SharedCache) :
    p.IsDone ∨ (∃ c' p', p.Step key b c c' p') ∨ ∃ slot, p = .waiting slot ∧ c.isLocked slot := by
  cases p with
  | entering => exact Or.inr (Or.inl ⟨_, _, .enter⟩)
  | ticking slot built? => exact Or.inr (Or.inl ⟨_, _, .tick⟩)
  | stamping slot time built? =>
    cases built? with
    | none => exact Or.inr (Or.inl ⟨_, _, .stampWanted⟩)
    | some g => exact Or.inr (Or.inl ⟨_, _, .stampBuilt⟩)
  | checking slot =>
    cases h : c.guide? slot with
    | none => exact Or.inr (Or.inl ⟨_, _, .miss h⟩)
    | some g => exact Or.inr (Or.inl ⟨_, _, .hit h⟩)
  | waiting slot =>
    cases h : c.isLocked slot with
    | false => exact Or.inr (Or.inl ⟨_, _, .acquire h⟩)
    | true => exact Or.inr (Or.inr ⟨slot, rfl, h⟩)
  | rechecking slot =>
    cases h : c.guide? slot with
    | none => exact Or.inr (Or.inl ⟨_, _, .lateMiss h⟩)
    | some g => exact Or.inr (Or.inl ⟨_, _, .lateHit h⟩)
  | building slot =>
    cases h : b with
    | error e => exact Or.inr (Or.inl ⟨_, _, .fail rfl⟩)
    | ok guide => exact Or.inr (Or.inl ⟨_, _, .build rfl⟩)
  | counting slot guide => exact Or.inr (Or.inl ⟨_, _, .count⟩)
  | filling slot g => exact Or.inr (Or.inl ⟨_, _, .fill⟩)
  | releasing slot outcome =>
    cases outcome with
    | found g => exact Or.inr (Or.inl ⟨_, _, .releaseFound⟩)
    | built g => exact Or.inr (Or.inl ⟨_, _, .releaseBuilt⟩)
    | failed e => exact Or.inr (Or.inl ⟨_, _, .releaseFailed⟩)
  | discarding slot e => exact Or.inr (Or.inl ⟨_, _, .discard⟩)
  | evicting g => exact Or.inr (Or.inl ⟨_, _, .evict⟩)
  | done result => exact Or.inl ⟨result, rfl⟩

theorem Lookup.Phase.exists_step (p : Lookup.Phase) (key : Key) (c : SharedCache) :
    p.IsDone ∨ ∃ c' p', p.Step key c c' p' := by
  cases p with
  | looking =>
    cases h : c.slot? key with
    | none => exact Or.inr ⟨_, _, .absent h⟩
    | some slot => exact Or.inr ⟨_, _, .present h⟩
  | reading slot =>
    cases h : c.guide? slot with
    | none => exact Or.inr ⟨_, _, .unbuilt h⟩
    | some g => exact Or.inr ⟨_, _, .built h⟩
  | ticking slot g => exact Or.inr ⟨_, _, .tick⟩
  | stamping slot time g => exact Or.inr ⟨_, _, .stamp⟩
  | done guide? => exact Or.inl ⟨guide?, rfl⟩

theorem sum_set_lt {α : Type} {l : List α} {i : ℕ} {a b : α} {f : α → ℕ} (ha : l[i]? = some a)
    (hlt : f b < f a) : ((l.set i b).map f).sum < (l.map f).sum := by
  induction l generalizing i with
  | nil => cases ha
  | cons x l ih =>
    cases i with
    | zero =>
      obtain rfl : x = a := Option.some.inj ha
      simpa using hlt
    | succ i => simpa using ih ha

namespace System

def remaining (s : System) : ℕ :=
  (s.requests.map (·.phase.remaining)).sum + (s.lookups.map (·.phase.remaining)).sum

def AtRest (s : System) : Prop :=
  (∀ r ∈ s.requests, r.phase.IsDone) ∧ ∀ l ∈ s.lookups, l.phase.IsDone

theorem Advance.remaining_lt (h : s.Advance es s') : s'.remaining < s.remaining := by
  cases h with
  | request hr hstep => exact Nat.add_lt_add_right (sum_set_lt hr hstep.remaining_lt) _
  | lookup hl hstep => exact Nat.add_lt_add_left (sum_set_lt hl hstep.remaining_lt) _

/-- While calls are under way, some call can take a step: a call that waits for a lock waits for another
one, which does not wait. -/
theorem Locked.exists_advance (h : s.Locked) : s.AtRest ∨ ∃ es s', s.Advance es s' := by
  by_contra hstuck
  obtain ⟨hrest, hnone⟩ := not_or.mp hstuck
  have hrequest (r : Request) (hr : r ∈ s.requests) :
      r.phase.IsDone ∨ ∃ slot, r.phase = .waiting slot ∧ s.cache.isLocked slot := by
    obtain hdone | ⟨c', p', hstep⟩ | hwait :=
      r.phase.exists_step r.key (build r.settings r.key) s.cache
    · exact Or.inl hdone
    · obtain ⟨i, hi⟩ := List.getElem?_of_mem hr
      exact absurd ⟨_, _, .request hi hstep⟩ hnone
    · exact Or.inr hwait
  refine hrest ⟨fun r hr => ?_, fun l hl => ?_⟩
  · cases hrequest r hr with
    | inl hdone => exact hdone
    | inr hwait =>
      obtain ⟨slot, -, hlocked⟩ := hwait
      obtain ⟨j, r', hr', hholds⟩ := h.holder slot hlocked
      obtain ⟨result, hresult⟩ | ⟨slot', hresult, -⟩ := hrequest r' (List.mem_of_getElem? hr')
      · rw [hresult] at hholds
        cases hholds
      · rw [hresult] at hholds
        cases hholds
  · cases l.phase.exists_step l.key s.cache with
    | inl hdone => exact hdone
    | inr hstep =>
      obtain ⟨c', p', hstep⟩ := hstep
      obtain ⟨i, hi⟩ := List.getElem?_of_mem hl
      exact absurd ⟨_, _, .lookup hi hstep⟩ hnone

end System

end ConstrainedDecoding.SharedCache
