import ConstrainedDecoding.Proofs.SharedCache.Cells

/-! Runs of calls that overlap, as seen by the calls that build guides. -/
namespace ConstrainedDecoding.SharedCache

open GuideCache (Key)

variable {c c' : SharedCache} {key k : Key} {id : SlotId} {p p' : Phase} {s s' : System} {es : List Event}

/-! ### Lists of calls -/

section Lists

variable {α : Type} {l : List α} {i : ℕ} {a b : α} {P : α → Prop}

theorem forall_mem_set (h : ∀ x ∈ l, P x) (hb : P b) : ∀ x ∈ l.set i b, P x := by
  intro x hx
  cases List.mem_or_eq_of_mem_set hx with
  | inl hmem => exact h x hmem
  | inr heq => exact heq ▸ hb

theorem exists_mem_set (h : ∃ x ∈ l, P x) (ha : l[i]? = some a) (hab : P a → P b) :
    ∃ x ∈ l.set i b, P x := by
  obtain ⟨x, hx, hP⟩ := h
  obtain ⟨j, hj⟩ := List.getElem?_of_mem hx
  by_cases hij : i = j
  · subst hij
    obtain rfl : a = x := Option.some.inj (ha.symm.trans hj)
    have hlt := (List.getElem?_eq_some_iff.mp ha).1
    exact ⟨b, List.mem_set hlt b, hab hP⟩
  · have hset : (l.set i b)[j]? = some x := by rw [List.getElem?_set_ne hij, hj]
    exact ⟨x, List.mem_of_getElem? hset, hP⟩

theorem set_concat : (l ++ [a]).set l.length b = l ++ [b] := by
  rw [List.set_append_right _ _ le_rfl, Nat.sub_self]
  rfl

end Lists

/-! ### What may happen to requests -/

/-- Two caches differ in nothing that the calls that build guides can see, apart from times. -/
structure Quiet (c c' : SharedCache) : Prop where
  capacity : c'.capacity = c.capacity
  table : c'.table.Perm c.table
  key (id : SlotId) : c'.key? id = c.key? id
  guide (id : SlotId) : c'.guide? id = c.guide? id
  isLocked (id : SlotId) : c'.isLocked id = c.isLocked id

theorem Quiet.refl (c : SharedCache) : c.Quiet c := ⟨rfl, .refl _, fun _ => rfl, fun _ => rfl, fun _ => rfl⟩

theorem Quiet.stamp (c : SharedCache) (slot : SlotId) (time : ℕ) : c.Quiet (c.stamp slot time) where
  capacity := rfl
  table := .refl _
  key _ := key?_update fun _ => rfl
  guide _ := guide?_update fun _ => rfl
  isLocked _ := isLocked_update fun _ => rfl

theorem Lookup.Phase.Step.quiet {p p' : Lookup.Phase} (h : p.Step key c c' p') : c.Quiet c' := by
  cases h with
  | stamp => exact .stamp ..
  | _ => exact ⟨rfl, .refl _, fun _ => rfl, fun _ => rfl, fun _ => rfl⟩

namespace System

/-- A step of a system as the calls that build guides see it. -/
inductive Move (s : System) (s' : System) : List Event → Prop
  | advance {i r phase} (hr : s.requests[i]? = some r)
    (hrequests : s'.requests = s.requests.set i { r with phase })
    (hstep : r.phase.Step r.key (build r.settings r.key) s.cache s'.cache phase) : Move s s' r.events
  | start {r : Request} (hr : r.phase = .entering) (hrequests : s'.requests = s.requests ++ [r])
    (hcache : s'.cache = s.cache) : Move s s' []
  | clear (hrequests : s'.requests = s.requests) (hcache : s'.cache = s.cache.clear) : Move s s' [.clear]
  | quiet (hrequests : s'.requests = s.requests) (hcache : s.cache.Quiet s'.cache) : Move s s' []

theorem Step.move (h : s.Step es s') : s.Move s' es := by
  cases h with
  | advance h =>
    cases h with
    | request hr hstep => exact .advance hr rfl hstep
    | lookup hl hstep => exact .quiet rfl hstep.quiet
  | request settings key => exact .start rfl rfl rfl
  | lookup key => exact .quiet rfl (.refl _)
  | clear => exact .clear rfl rfl
  | arrange h => exact .quiet rfl ⟨rfl, h, fun _ => rfl, fun _ => rfl, fun _ => rfl⟩

/-- What every move keeps holds after any number of steps. -/
theorem Run.invariant {P : System → Prop} (h : s.Run es s') (hs : P s)
    (hmove : ∀ {s s' es}, s.Move s' es → P s → P s') : P s' := by
  induction h with
  | nil => exact hs
  | step _ hstep ih => exact hmove hstep.move ih

end System

/-! ### Slots have the keys of the calls that hold on to them -/

def Phase.slot? : Phase → Option SlotId
  | .entering | .evicting _ | .done _ => none
  | .ticking slot _ | .stamping slot _ _ | .checking slot | .waiting slot | .rechecking slot
  | .building slot | .counting slot _ | .filling slot _ | .releasing slot _ | .discarding slot _ =>
    some slot

theorem Valid.of_subset (h : c.Valid) (hsub : c'.table ⊆ c.table) (hkey : ∀ id, c'.key? id = c.key? id) :
    c'.Valid where
  keyed id hid := by
    rw [hkey]
    exact h.keyed id (hsub hid)
  unique i hi j hj heq := by
    rw [hkey, hkey] at heq
    exact h.unique i (hsub hi) j (hsub hj) heq

theorem Valid.enter (h : c.Valid) : (c.enter key).Valid where
  keyed id hid := by
    cases mem_table_enter.mp hid with
    | inl heq => exact ⟨key, heq ▸ key?_slotFor⟩
    | inr hid =>
      obtain ⟨k, hk⟩ := h.keyed id hid
      exact ⟨k, key?_enter hk⟩
  unique i hi j hj heq := by
    -- a slot that has the key was found, so that none is made
    have hold {id : SlotId} (hid : id ∈ c.table) (hkey : (c.enter key).key? id = some key) :
        id = c.slotFor key := by
      obtain ⟨k, hk⟩ := h.keyed id hid
      obtain rfl : k = key := Option.some.inj ((key?_enter hk).symm.trans hkey)
      exact (enter_of_some (h.slot?_eq hid hk)).2.symm
    cases mem_table_enter.mp hi with
    | inl hi =>
      subst hi
      rw [key?_slotFor] at heq
      cases mem_table_enter.mp hj with
      | inl hj => exact hj.symm
      | inr hj => exact (hold hj heq.symm).symm
    | inr hi =>
      cases mem_table_enter.mp hj with
      | inl hj =>
        subst hj
        exact hold hi (heq.trans key?_slotFor)
      | inr hj =>
        obtain ⟨k, hk⟩ := h.keyed i hi
        obtain ⟨k', hk'⟩ := h.keyed j hj
        rw [key?_enter hk, key?_enter hk'] at heq
        exact h.unique i hi j hj (hk.trans (heq.trans hk'.symm))

theorem Phase.Step.valid {build : Except Error Guide} (h : p.Step key build c c' p') (hc : c.Valid) :
    c'.Valid := by
  cases h with
  | enter => exact hc.enter
  | discard =>
    rw [discard_eq]
    exact hc.of_subset discard_sublist.subset fun _ => rfl
  | evict =>
    rw [evict_eq]
    exact hc.of_subset evict_subset fun _ => rfl
  | stampWanted | stampBuilt | acquire | fill | releaseFound | releaseBuilt | releaseFailed =>
    exact hc.of_subset (List.Subset.refl _) fun _ => key?_update fun _ => rfl
  | _ => exact hc.of_subset (List.Subset.refl _) fun _ => rfl

theorem Phase.Step.slot?_eq {build : Except Error Guide} (h : p.Step key build c c' p')
    (hid : p'.slot? = some id) : p.slot? = some id ∨ p = .entering ∧ id = c.slotFor key := by
  cases h with
  | enter => exact Or.inr ⟨rfl, (Option.some.inj hid).symm⟩
  | hit | releaseFound | discard | evict | stampBuilt => cases hid
  | _ => exact Or.inl hid

theorem Phase.Step.key?_eq {build : Except Error Guide} (h : p.Step key build c c' p')
    (hown : ∀ id, p.slot? = some id → c.key? id = some key) (hid : p'.slot? = some id) :
    c'.key? id = some key := by
  cases h.slot?_eq hid with
  | inl hslot => exact h.extends.key (hown id hslot)
  | inr hslot =>
    obtain ⟨rfl, rfl⟩ := hslot
    cases h with
    | enter => exact key?_slotFor

namespace System

structure WellFormed (s : System) : Prop where
  valid : s.cache.Valid
  own : ∀ r ∈ s.requests, ∀ id, r.phase.slot? = some id → s.cache.key? id = some r.key

theorem WellFormed.move (h : s.WellFormed) (hmove : s.Move s' es) : s'.WellFormed := by
  cases hmove with
  | advance hr hrequests hstep =>
    have hown := h.own _ (List.mem_of_getElem? hr)
    refine ⟨hstep.valid h.valid, ?_⟩
    rw [hrequests]
    refine forall_mem_set (fun r hr id hid => hstep.extends.key (h.own r hr id hid)) ?_
    exact fun id hid => hstep.key?_eq hown hid
  | start hr hrequests hcache =>
    refine ⟨hcache ▸ h.valid, ?_⟩
    rw [hrequests, hcache]
    refine List.forall_mem_append.mpr ⟨h.own, List.forall_mem_singleton.mpr fun id hid => ?_⟩
    rw [hr] at hid
    cases hid
  | clear hrequests hcache =>
    refine ⟨?_, ?_⟩
    · rw [hcache]
      exact h.valid.of_subset (List.nil_subset _) fun _ => rfl
    · rw [hrequests, hcache]
      exact h.own
  | quiet hrequests hcache =>
    refine ⟨h.valid.of_subset hcache.table.subset hcache.key, ?_⟩
    rw [hrequests]
    exact fun r hr id hid => (hcache.key id).trans (h.own r hr id hid)

theorem wellFormed_initial (capacity : Option ℕ) : (initial capacity).WellFormed where
  valid := ⟨by simp [initial, empty], by simp [initial, empty]⟩
  own := by simp [initial]

theorem Run.capacity_eq (h : s.Run es s') : s'.cache.capacity = s.cache.capacity := by
  refine h.invariant (P := fun s' => s'.cache.capacity = s.cache.capacity) rfl fun hmove h => ?_
  cases hmove with
  | advance hr hrequests hstep => exact hstep.extends.capacity.trans h
  | start hr hrequests hcache => exact (congrArg SharedCache.capacity hcache).trans h
  | clear hrequests hcache => exact (congrArg SharedCache.capacity hcache).trans h
  | quiet hrequests hcache => exact hcache.capacity.trans h

end System

end ConstrainedDecoding.SharedCache
